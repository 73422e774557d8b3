import Mathlib.Order.Nat
import TapeStudio.Machine.Run

/-! How a run of the machine ends, and which states end alike. -/
namespace TapeStudio.Machine

variable {σ : Type} {c : Console σ} {p : Program} {m m' m'' : Machine} {s s' s'' : σ}

@[simp] theorem position_jump (m : Machine) (k : Nat) : (m.jump k).position = k := rfl

@[simp] theorem position_advance (m : Machine) : m.advance.position = m.position + 1 := rfl

/-- The run ends like this, by itself, in at most so many steps. -/
def EndsIn (c : Console σ) (p : Program) (fuel : Nat) (m : Machine) (s : σ) (o : Outcome σ) :
    Prop :=
  o.ending ≠ .unfinished ∧ run c p fuel m s = o

/-- The run ends like this. -/
def Ends (c : Console σ) (p : Program) (m : Machine) (s : σ) (o : Outcome σ) : Prop :=
  ∃ fuel, EndsIn c p fuel m s o

theorem EndsIn.mono {n k : Nat} {o : Outcome σ} (h : EndsIn c p n m s o) (hnk : n ≤ k) :
    EndsIn c p k m s o :=
  ⟨h.1, (run_of_le (h.2 ▸ h.1) hnk).trans h.2⟩

theorem not_endsIn_zero (o : Outcome σ) : ¬ EndsIn c p 0 m s o := by
  rintro ⟨hne, rfl⟩
  exact hne rfl

/-- A run ends in one way only. -/
theorem Ends.unique {o o' : Outcome σ} (h : Ends c p m s o) (h' : Ends c p m s o') : o = o' := by
  obtain ⟨n, hn⟩ := h
  obtain ⟨k, hk⟩ := h'
  exact ((hn.mono (Nat.le_max_left n k)).2).symm.trans (hk.mono (Nat.le_max_right n k)).2

theorem endsIn_succ_of_go {n : Nat} {o : Outcome σ} (h : step c p m s = .go m' s') :
    EndsIn c p (n + 1) m s o ↔ EndsIn c p n m' s' o := by
  rw [EndsIn, EndsIn, run, h]
  rfl

theorem ends_of_halt {e : Ending} (h : step c p m s = ⟨some e, m', s'⟩) (he : e ≠ .unfinished) :
    Ends c p m s ⟨e, some m', s'⟩ :=
  ⟨1, he, by rw [run, h]⟩

/-- From the first state the run comes to the second, or goes on as if it had: both end alike, and
the second does not take longer. -/
def Leads (c : Console σ) (p : Program) (m : Machine) (s : σ) (m' : Machine) (s' : σ) : Prop :=
  (∀ n o, EndsIn c p n m s o → EndsIn c p n m' s' o) ∧
    ∀ o, Ends c p m' s' o → Ends c p m s o

namespace Leads

theorem refl (m : Machine) (s : σ) : Leads c p m s m s :=
  ⟨fun _ _ h => h, fun _ h => h⟩

theorem trans (h : Leads c p m s m' s') (h' : Leads c p m' s' m'' s'') :
    Leads c p m s m'' s'' :=
  ⟨fun n o ho => h'.1 n o (h.1 n o ho), fun o ho => h.2 o (h'.2 o ho)⟩

theorem of_go (h : step c p m s = .go m' s') : Leads c p m s m' s' := by
  constructor
  · intro n o ho
    cases n with
    | zero => exact absurd ho (not_endsIn_zero o)
    | succ n => exact ((endsIn_succ_of_go h).mp ho).mono (Nat.le_succ n)
  · rintro o ⟨n, ho⟩
    exact ⟨n + 1, (endsIn_succ_of_go h).mpr ho⟩

/-- Two states with the same next step end alike. -/
theorem of_step_eq (h : step c p m s = step c p m' s') : Leads c p m s m' s' := by
  have hrun (n : Nat) : run c p (n + 1) m s = run c p (n + 1) m' s' := by rw [run, run, h]
  constructor
  · intro n o ho
    cases n with
    | zero => exact absurd ho (not_endsIn_zero o)
    | succ n => exact ⟨ho.1, (hrun n).symm.trans ho.2⟩
  · rintro o ⟨n, ho⟩
    cases n with
    | zero => exact absurd ho (not_endsIn_zero o)
    | succ n => exact ⟨n + 1, ho.1, (hrun n).trans ho.2⟩

end Leads

/-! One step, by the character at the position. -/

section Step

variable {character : Char} {i : Instruction} {e : Ending}

theorem step_of_end (h : p.code[m.position]? = none) : step c p m s = ⟨some .completed, m, s⟩ := by
  simp only [step, h]

theorem step_of_comment (h : p.code[m.position]? = some character)
    (hi : Instruction.ofChar? character = none) (hs : (c.switches s).stop = false) :
    step c p m s = .go m.advance s := by
  simp [step, h, hi, Turn.go, hs]

theorem step_of_go (h : p.code[m.position]? = some character)
    (hi : Instruction.ofChar? character = some i) (hp : perform c p.jumps i m s = .go m' s')
    (hs : (c.switches s').stop = false) : step c p m s = .go m'.advance s' := by
  simp [step, h, hi, hp, Turn.go, hs]

theorem step_of_halt (h : p.code[m.position]? = some character)
    (hi : Instruction.ofChar? character = some i)
    (hp : perform c p.jumps i m s = ⟨some e, m', s'⟩) : step c p m s = ⟨some e, m', s'⟩ := by
  simp [step, h, hi, hp]

end Step

end TapeStudio.Machine
