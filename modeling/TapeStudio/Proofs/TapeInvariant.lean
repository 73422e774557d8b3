import TapeStudio.Machine.Terminal
import TapeStudio.Proofs.Steps

/-! The tape along an execution. It is exactly as long as the pointer has come, each step changes at
most the cell under the pointer, and the pointer leaves the tape only in the step that ends with the
notice of the left end. -/
namespace TapeStudio

open Brackets

/-- The instructions that write to the cell under the pointer. -/
def Instruction.writes : Instruction → Bool
  | .increment | .decrement | .read => true
  | _ => false

theorem Instruction.mem_of_writes {character : Char} {i : Instruction}
    (h : Instruction.ofChar? character = some i) (hi : i.writes = true) :
    character ∈ "+-,".toList := by
  obtain rfl := ofChar?_eq_some_iff.mp h
  cases i <;> simp_all [symbol, writes]

namespace Machine

variable {σ : Type} {c : Console σ} {p : Program} {m m' : Machine} {s s' : σ} {value k : Nat}
  {e? : Option Ending}

/-- The pointer is on the tape. -/
structure OnTape (m : Machine) : Prop where
  nonneg : 0 ≤ m.pointer
  lt_size : m.pointer < m.memory.size

theorem onTape_initial : initial.OnTape := ⟨by decide, by decide⟩

theorem OnTape.exists_cell? (h : m.OnTape) : ∃ value, m.cell? = some value := by
  have hnonneg := h.nonneg
  have hlt : m.pointer.toNat < m.memory.size := by
    have := h.lt_size
    omega
  refine ⟨m.memory[m.pointer.toNat], ?_⟩
  rw [cell?, if_neg (by omega), Array.getElem?_eq_getElem hlt]

/-- What a step can do to a tape: it grows by a zero at most, to which the pointer moves, and only
the cell under the pointer can change, if the step writes. -/
structure Alters (writes : Prop) (m m' : Machine) : Prop where
  pointer_lt : m'.pointer < m'.memory.size
  size : m'.memory.size = m.memory.size ∨
    m'.memory.size = m.memory.size + 1 ∧ m'.pointer = m.memory.size
  fresh {j : Nat} : m.memory.size ≤ j → j < m'.memory.size → m'.memory[j]? = some 0
  same {j : Nat} : j < m.memory.size → (m.pointer = j → ¬ writes) → m'.memory[j]? = m.memory[j]?

namespace Alters

variable {writes : Prop}

theorem of_memory_eq (hmemory : m'.memory = m.memory) (hpointer : m'.pointer < m.memory.size) :
    Alters writes m m' where
  pointer_lt := hmemory ▸ hpointer
  size := .inl (by rw [hmemory])
  fresh hle hlt := by
    rw [hmemory] at hlt
    omega
  same _ _ := by rw [hmemory]

theorem moveRight (h : m.OnTape) : Alters writes m m.moveRight := by
  have hlt := h.lt_size
  by_cases hgrow : (m.memory.size : Int) ≤ m.pointer + 1
  · have hmemory : m.moveRight.memory = m.memory.push 0 := if_pos hgrow
    have hpointer : m.moveRight.pointer = m.memory.size := by
      simp only [Machine.moveRight]
      omega
    refine ⟨?_, .inr ⟨by rw [hmemory, Array.size_push], hpointer⟩, ?_, ?_⟩
    · rw [hmemory, hpointer, Array.size_push]
      omega
    · intro j hle hj
      rw [hmemory, Array.size_push] at hj
      obtain rfl : j = m.memory.size := by omega
      rw [hmemory, Array.getElem?_push_size]
    · intro j hj _
      rw [hmemory, Array.getElem?_push, if_neg (by omega)]
  · have hmemory : m.moveRight.memory = m.memory := if_neg hgrow
    refine of_memory_eq hmemory ?_
    simp only [Machine.moveRight]
    omega

theorem store (h : m.OnTape) (value : Nat) : Alters True m (m.store value) where
  pointer_lt := by simpa [Machine.store] using h.lt_size
  size := .inl (by simp [Machine.store])
  fresh hle hlt := by
    simp only [Machine.store, Array.size_setIfInBounds] at hlt
    omega
  same {j} _ hne := by
    have hnonneg := h.nonneg
    have hj : m.pointer.toNat ≠ j := fun heq => hne (by omega) trivial
    simp only [Machine.store]
    rw [Array.getElem?_setIfInBounds_ne hj]

theorem imp {writes' : Prop} (h : Alters writes m m') (hw : writes → writes') :
    Alters writes' m m' :=
  { h with same := fun hj hne => h.same hj fun heq hwrites => hne heq (hw hwrites) }

theorem advance (h : Alters writes m m') : Alters writes m m'.advance := { h with }

end Alters

theorem Effect.alters {jumps : JumpTable} {i : Instruction}
    (h : Effect c jumps m s value i e? m' s') (hm : m.OnTape) : Alters (i.writes = true) m m' := by
  have hlt := hm.lt_size
  cases h with
  | moveRight => exact .moveRight hm
  | moveLeft | leftEnd =>
    refine .of_memory_eq rfl ?_
    simp only [Machine.moveLeft]
    omega
  | increment | decrement | read => exact (Alters.store hm _).imp fun _ => rfl
  | skip | again => exact .of_memory_eq rfl hlt
  | print | interrupted | endOfInput | emptyLine | enter | unmatchedStart | leave | unmatchedEnd =>
    exact .of_memory_eq rfl hlt

/-- The pointer goes below the first cell only to end the execution. -/
theorem Effect.pointer_neg_iff {jumps : JumpTable} {i : Instruction}
    (h : Effect c jumps m s value i e? m' s') (hm : m.OnTape) :
    m'.pointer < 0 ↔ e? = some .leftEnd := by
  have hnonneg := hm.nonneg
  cases h with
  | moveRight => simp [Machine.moveRight]; omega
  | moveLeft hpos => simp [Machine.moveLeft]; omega
  | leftEnd hle => simp [Machine.moveLeft]; omega
  | increment | decrement | read => simpa [Machine.store] using hnonneg
  | skip | again => simpa [Machine.jump] using hnonneg
  | print | interrupted | endOfInput | emptyLine | enter | unmatchedStart | leave | unmatchedEnd =>
    simpa using hnonneg

theorem Effect.ne_offTape {jumps : JumpTable} {i : Instruction}
    (h : Effect c jumps m s value i e? m' s') : e? ≠ some .offTape := by
  cases h <;> simp

/-- The character at the position is one of the three that write. -/
def Writes (t : Text) (m : Machine) : Prop :=
  ∃ character ∈ "+-,".toList, t[m.position]? = some character

/-- On the tape there is a value, so that a step does one of the things that it can do. -/
theorem OnTape.stepped (hm : m.OnTape) (h : step c p m s = ⟨e?, m', s'⟩) :
    ∃ value, m.cell? = some value ∧ Stepped c p m s value e? m' s' := by
  obtain ⟨value, hcell⟩ := hm.exists_cell?
  have hstepped := stepped_step (c := c) hcell p s
  rw [h] at hstepped
  exact ⟨value, hcell, hstepped⟩

namespace Stepped

variable {t : Text}

theorem alters (h : Stepped c p m s value e? m' s') (hp : Program.ofText? t = some p)
    (hm : m.OnTape) : Alters (m.Writes t) m m' := by
  have hwrites {character : Char} {i : Instruction} (hcode : p.code[m.position]? = some character)
      (hi : Instruction.ofChar? character = some i) (hw : i.writes = true) : m.Writes t :=
    ⟨character, Instruction.mem_of_writes hi hw, by rw [← Program.getElem?_code hp, hcode]⟩
  cases h with
  | completed | stoppedInComment | comment => exact .of_memory_eq rfl hm.lt_size
  | ended hcode hi effect => exact (effect.alters hm).imp (hwrites hcode hi)
  | stopped hcode hi effect => exact (effect.alters hm).imp (hwrites hcode hi)
  | gone hcode hi effect => exact ((effect.alters hm).imp (hwrites hcode hi)).advance

theorem pointer_neg_iff (h : Stepped c p m s value e? m' s') (hm : m.OnTape) :
    m'.pointer < 0 ↔ e? = some .leftEnd := by
  cases h with
  | completed | comment | stoppedInComment => simpa [Machine.advance] using hm.nonneg
  | ended _ _ effect => exact effect.pointer_neg_iff hm
  | stopped _ _ effect => simpa using effect.pointer_neg_iff hm
  | gone _ _ effect => simpa [Machine.advance] using effect.pointer_neg_iff hm

theorem ne_offTape (h : Stepped c p m s value e? m' s') : e? ≠ some .offTape := by
  cases h with
  | completed | comment | stoppedInComment | stopped | gone => simp
  | ended _ _ effect => exact effect.ne_offTape

theorem onTape (h : Stepped c p m s value none m' s') (hp : Program.ofText? t = some p)
    (hm : m.OnTape) : m'.OnTape := by
  have hnonneg : ¬ m'.pointer < 0 := by simp [h.pointer_neg_iff hm]
  exact ⟨by omega, (h.alters hp hm).pointer_lt⟩

end Stepped

section Text

variable {t : Text}

/-- Both partners are places in the text. -/
theorem lt_length_of_partner {i j : Nat} (h : Partner t i j) : j < t.length := by
  rcases h with h | h
  · exact (List.getElem?_eq_some_iff.mp h.closes).1
  · exact (List.getElem?_eq_some_iff.mp h.opens).1

/-- Before a step moves on, the position is still at a character of the text. -/
theorem Effect.position_lt {i : Instruction} (h : Effect c p.jumps m s value i e? m' s')
    (hp : Program.ofText? t = some p) (hm : m.position < t.length) : m'.position < t.length := by
  cases h with
  | skip _ hjump => exact lt_length_of_partner ((Program.getElem?_jumps hp).mp hjump)
  | again _ hjump => exact lt_length_of_partner ((Program.getElem?_jumps hp).mp hjump)
  | moveRight | moveLeft | leftEnd | increment | decrement | print | interrupted | endOfInput
  | emptyLine | read | enter | unmatchedStart | leave | unmatchedEnd => exact hm

theorem Stepped.position_le (h : Stepped c p m s value none m' s')
    (hp : Program.ofText? t = some p) : m'.position ≤ t.length := by
  have hlt {character : Char} (hcode : p.code[m.position]? = some character) :
      m.position < t.length := by
    rw [Program.getElem?_code hp] at hcode
    exact (List.getElem?_eq_some_iff.mp hcode).1
  cases h with
  | comment hcode => exact hlt hcode
  | gone hcode _ effect => exact effect.position_lt hp (hlt hcode)

namespace Passes

theorem onTape (h : Passes c p m s k m' s') (hp : Program.ofText? t = some p) (hm : m.OnTape) :
    m'.OnTape := by
  refine h.invariant (I := fun m _ => m.OnTape) ?_ hm
  intro m m' s s' hm hgo
  obtain ⟨value, -, hstepped⟩ := hm.stepped hgo
  exact hstepped.onTape hp hm

theorem position_le (h : Passes c p m s k m' s') (hp : Program.ofText? t = some p) (hm : m.OnTape)
    (hposition : m.position ≤ t.length) : m'.position ≤ t.length := by
  cases h with
  | start => exact hposition
  | next before hgo =>
    obtain ⟨value, -, hstepped⟩ := (before.onTape hp hm).stepped hgo
    exact hstepped.position_le hp

theorem alters_of_go (h : Passes c p m s k m' s') (hp : Program.ofText? t = some p)
    (hm : m.OnTape) {m'' : Machine} {s'' : σ} (hgo : step c p m' s' = .go m'' s'') :
    Alters (m'.Writes t) m' m'' := by
  obtain ⟨value, -, hstepped⟩ := (h.onTape hp hm).stepped hgo
  exact hstepped.alters hp (h.onTape hp hm)

/-- A tape never shrinks. -/
theorem size_le (h : Passes c p m s k m' s') (hp : Program.ofText? t = some p) (hm : m.OnTape) :
    m.memory.size ≤ m'.memory.size := by
  induction h with
  | start => exact Nat.le_refl _
  | next before hgo ih =>
    have hsize := (before.alters_of_go hp hm hgo).size
    omega

/-- A tape that is as long as the pointer has come stays so. -/
theorem exists_reach (h : Passes c p m s k m' s') (hp : Program.ofText? t = some p)
    (hm : m.OnTape) (hsize : (m.memory.size : Int) = 1 + m.pointer) :
    ∃ j ≤ k, ∃ m₁ s₁, Passes c p m s j m₁ s₁ ∧ (m'.memory.size : Int) = 1 + m₁.pointer := by
  induction h with
  | start => exact ⟨0, Nat.le_refl 0, m, s, .start, hsize⟩
  | @next k _ m'' _ s'' before hgo ih =>
    rcases (before.alters_of_go hp hm hgo).size with hsame | ⟨hgrown, hpointer⟩
    · obtain ⟨j, hj, m₁, s₁, hpasses, hreach⟩ := ih
      exact ⟨j, by omega, m₁, s₁, hpasses, by rw [hsame, hreach]⟩
    · exact ⟨k + 1, Nat.le_refl _, m'', s'', .next before hgo, by omega⟩

/-- On a tape of zeros a cell is zero until it is written to. -/
theorem zero_of_unwritten {i : Nat} (h : Passes c p m s k m' s') (hp : Program.ofText? t = some p)
    (hm : m.OnTape) (hzero : ∀ i < m.memory.size, m.memory[i]? = some 0)
    (hi : i < m'.memory.size)
    (hunwritten : ∀ j < k, ∀ m₁ s₁, Passes c p m s j m₁ s₁ → m₁.pointer = i → ¬ m₁.Writes t) :
    m'.memory[i]? = some 0 := by
  induction h with
  | start => exact hzero i hi
  | @next k m' _ s' _ before hgo ih =>
    have halters := before.alters_of_go hp hm hgo
    by_cases hold : i < m'.memory.size
    · rw [halters.same hold (hunwritten k (Nat.lt_succ_self k) m' s' before)]
      exact ih hold fun j hj => hunwritten j (by omega)
    · exact halters.fresh (by omega) hi

end Passes

end Text

/-- The tape at a state that an execution passes through after `k` steps. -/
structure SoundTape (c : Console σ) (t : Text) (a : σ) (k : Nat) (m : Machine) : Prop where
  nonempty : 0 < m.memory.size
  pointer_nonneg : 0 ≤ m.pointer
  pointer_lt : m.pointer < m.memory.size
  /-- The length is one more than the largest pointer so far. -/
  reached : ∃ j ≤ k, ∃ m' s', Visits c t a j m' s' ∧ (m.memory.size : Int) = 1 + m'.pointer
  within : ∀ j ≤ k, ∀ m' s', Visits c t a j m' s' → 1 + m'.pointer ≤ m.memory.size
  position_le : m.position ≤ t.length
  beyond : ∀ i : Nat, (∀ j ≤ k, ∀ m' s', Visits c t a j m' s' → m'.pointer < i) →
    m.memory[i]? = none
  unwritten : ∀ i < m.memory.size, (∀ j < k, ∀ m' s', Visits c t a j m' s' →
    m'.pointer = i → ¬ m'.Writes t) → m.memory[i]? = some 0

theorem soundTape_of_visits {t : Text} {a : σ} (h : Visits c t a k m s) :
    SoundTape c t a k m := by
  obtain ⟨p, hp, hpasses⟩ := h
  have hon := hpasses.onTape hp onTape_initial
  have hnonneg := hon.nonneg
  have hlt := hon.lt_size
  obtain ⟨j, hj, m₁, s₁, hreach, hsize⟩ := hpasses.exists_reach hp onTape_initial rfl
  refine ⟨by omega, hnonneg, hlt, ⟨j, hj, m₁, s₁, ⟨p, hp, hreach⟩, hsize⟩, ?_,
    hpasses.position_le hp onTape_initial (Nat.zero_le _), ?_, ?_⟩
  · intro j hj m' s' hvisits
    have hearlier := hvisits.passes hp
    have hmono := (hearlier.between hpasses hj).size_le hp (hearlier.onTape hp onTape_initial)
    have hlt' := (hearlier.onTape hp onTape_initial).lt_size
    omega
  · intro i hbelow
    have hpointer := hbelow j hj m₁ s₁ ⟨p, hp, hreach⟩
    rw [Array.getElem?_eq_none_iff]
    omega
  · intro i hi hunwritten
    refine hpasses.zero_of_unwritten hp onTape_initial ?_ hi fun j hj m' s' hearlier =>
      hunwritten j hj m' s' ⟨p, hp, hearlier⟩
    intro i hi
    obtain rfl : i = 0 := by simpa [initial] using hi
    rfl

/-- Wherever an execution comes to, on any console, the tape is sound there; a step from there
changes no other cell than the one under the pointer, finds a cell whenever it needs one, and takes
the pointer off the tape only to end with the notice of the left end. So no execution fails for want
of a cell, and the pointer is negative only after that notice. -/
theorem tape_invariant (c : Console σ) (t : Text) (a : σ) :
    (∀ k m s, Visits c t a k m s → SoundTape c t a k m) ∧
    (∀ p k m s, Program.ofText? t = some p → Visits c t a k m s →
      (step c p m s).ending? ≠ some .offTape ∧
      ((step c p m s).machine.pointer < 0 ↔ (step c p m s).ending? = some .leftEnd) ∧
      ∀ i < m.memory.size, (step c p m s).machine.memory[i]? ≠ m.memory[i]? → m.pointer = i) ∧
    ∀ fuel, let outcome := execute c fuel (.ok t) a
      outcome.ending ≠ .offTape ∧
        ∀ m, outcome.machine? = some m → (m.pointer < 0 ↔ outcome.ending = .leftEnd) := by
  refine ⟨fun k m s => soundTape_of_visits, ?_, ?_⟩
  · intro p k m s hp hvisits
    have hon := (hvisits.passes hp).onTape hp onTape_initial
    obtain ⟨value, -, hstepped⟩ := hon.stepped (show step c p m s = ⟨_, _, _⟩ from rfl)
    refine ⟨hstepped.ne_offTape, hstepped.pointer_neg_iff hon, ?_⟩
    intro i hi hchanged
    by_contra hne
    exact hchanged ((hstepped.alters hp hon).same hi fun heq => absurd heq hne)
  · intro fuel
    cases hp : Program.ofText? t with
    | none =>
      rw [execute_of_overclosed ((Program.ofText?_eq_none_iff t).mp hp)]
      simp [initial]
    | some p =>
      rw [execute_of_program hp]
      rcases run_cases c p fuel initial (c.setSwitches ⟨false, true⟩ a) with
        ⟨k, m, s, e, m', s', -, hpasses, hend, hrun⟩ | ⟨m, s, hpasses, hrun⟩
      · have hon := hpasses.onTape hp onTape_initial
        obtain ⟨value, -, hstepped⟩ := hon.stepped hend
        simpa [hrun] using And.intro hstepped.ne_offTape (hstepped.pointer_neg_iff hon)
      · have hnonneg := (hpasses.onTape hp onTape_initial).nonneg
        simpa [hrun] using hnonneg

/-- Twice to the right, and back to the left of the cell that was written to. -/
theorem tape_invariant_grown :
    let start := Terminal.initial ⟨false, true⟩ [] none none
    Visits Terminal.console ">>+<".toList start 4 ⟨4, 1, #[0, 0, 1]⟩ start ∧
      SoundTape Terminal.console ">>+<".toList start 4 ⟨4, 1, #[0, 0, 1]⟩ := by
  intro start
  have hvisits : Visits Terminal.console ">>+<".toList start 4 ⟨4, 1, #[0, 0, 1]⟩ start :=
    ⟨_, rfl, .next (.next (.next (.next .start rfl) rfl) rfl) rfl⟩
  exact ⟨hvisits, (tape_invariant _ _ _).1 _ _ _ hvisits⟩

end Machine

end TapeStudio
