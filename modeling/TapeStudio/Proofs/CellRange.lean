import TapeStudio.Proofs.TapeInvariant

/-! The values of the cells along an execution. Only a reading puts more than a byte on the tape,
and nothing that follows takes a cell beyond the largest character that was read. As long as only
bytes are read the cells count modulo 256. -/
namespace TapeStudio

/-- The largest value that a code point has. -/
def CodePoint.largest : Nat := 0x10FFFF

theorem CodePoint.toNat_le_largest (c : Char) : c.toNat ≤ largest := by
  have hvalid : c.toNat < 0xD800 ∨ 0xDFFF < c.toNat ∧ c.toNat < 0x110000 := c.valid
  unfold largest
  omega

namespace Machine

variable {σ : Type} {c : Console σ} {p : Program} {m m' : Machine} {s s' : σ}
  {value bound k : Nat} {e? : Option Ending} {t : Text}

theorem successor_le (value : Nat) : successor value ≤ 255 := by
  unfold successor
  split <;> omega

theorem predecessor_le (h : value ≤ bound) (hbyte : 255 ≤ bound) : predecessor value ≤ bound := by
  cases value with
  | zero => exact hbyte
  | succ n =>
    simp only [predecessor]
    omega

theorem successor_of_byte (h : value ≤ 255) : (successor value : Int) = (value + 1) % 256 := by
  unfold successor
  split <;> omega

theorem predecessor_of_byte (h : value ≤ 255) : (predecessor value : Int) = (value - 1) % 256 := by
  cases value with
  | zero => rfl
  | succ n =>
    simp only [predecessor]
    omega

/-- No cell holds more than this. -/
def AtMost (bound : Nat) (m : Machine) : Prop := ∀ cell ∈ m.memory, cell ≤ bound

theorem atMost_initial : initial.AtMost bound := by
  intro cell hcell
  obtain rfl : cell = 0 := by simpa [initial] using hcell
  exact Nat.zero_le bound

theorem AtMost.store (h : m.AtMost bound) (hvalue : value ≤ bound) :
    (m.store value).AtMost bound := by
  intro cell hcell
  rcases Array.mem_or_eq_of_mem_setIfInBounds hcell with hold | rfl
  · exact h cell hold
  · exact hvalue

theorem AtMost.moveRight (h : m.AtMost bound) : m.moveRight.AtMost bound := by
  intro cell hcell
  simp only [Machine.moveRight] at hcell
  split at hcell
  · rcases Array.mem_push.mp hcell with hold | rfl
    · exact h cell hold
    · exact Nat.zero_le bound
  · exact h cell hcell

theorem AtMost.cell_le (h : m.AtMost bound) (hcell : m.cell? = some value) : value ≤ bound := by
  unfold cell? at hcell
  split at hcell
  · contradiction
  · exact h value (Array.mem_of_getElem? hcell)

theorem OnTape.cell?_store (h : m.OnTape) (value : Nat) : (m.store value).cell? = some value := by
  have hnonneg := h.nonneg
  have hlt : m.pointer.toNat < m.memory.size := by
    have := h.lt_size
    omega
  have hpointer : (m.store value).pointer = m.pointer := rfl
  rw [cell?, hpointer, if_neg (by omega)]
  exact Array.getElem?_setIfInBounds_self_of_lt hlt

/-- The character that the instruction at the position takes from the console and stores, if it is a
reading that finds one. -/
def taken? (c : Console σ) (t : Text) (m : Machine) (s : σ) : Option Char :=
  if t[m.position]? = some ',' then
    match (c.readLine s).1 with
    | .line line => (typedOn? line).bind List.head?
    | .interrupted => none
  else none

theorem Effect.atMost {jumps : JumpTable} {i : Instruction}
    (h : Effect c jumps m s value i e? m' s') (ht : t[m.position]? = some i.symbol)
    (hcell : m.cell? = some value) (hm : m.AtMost bound) (hbyte : 255 ≤ bound)
    (htaken : ∀ first, taken? c t m s = some first → first.toNat ≤ bound) : m'.AtMost bound := by
  cases h with
  | moveRight => exact hm.moveRight
  | increment => exact hm.store ((successor_le value).trans hbyte)
  | decrement => exact hm.store (predecessor_le (hm.cell_le hcell) hbyte)
  | @read line first rest _ hread hline =>
    have htaken? : taken? c t m s = some first := by
      have hcomma : t[m.position]? = some ',' := ht
      simp [taken?, hcomma, hread, hline]
    exact hm.store (htaken first htaken?)
  | moveLeft | leftEnd | print | interrupted | endOfInput | emptyLine | enter | skip
  | unmatchedStart | leave | again | unmatchedEnd => exact hm

namespace Stepped

/-- A step at an instruction has the effect of it, and perhaps moves on. -/
theorem exists_effect {i : Instruction} (h : Stepped c p m s value e? m' s')
    (hp : Program.ofText? t = some p) (ht : t[m.position]? = some i.symbol) :
    ∃ e₁ m₁, Effect c p.jumps m s value i e₁ m₁ s' ∧ (m' = m₁ ∨ m' = m₁.advance) := by
  have hsame {character : Char} (hcode : p.code[m.position]? = some character) :
      Instruction.ofChar? character = some i := by
    rw [Program.getElem?_code hp, ht] at hcode
    exact Instruction.ofChar?_eq_some_iff.mpr (Option.some.inj hcode).symm
  cases h with
  | completed hcode =>
    rw [Program.getElem?_code hp, ht] at hcode
    contradiction
  | comment hcode hi =>
    rw [hsame hcode] at hi
    contradiction
  | stoppedInComment hcode hi =>
    rw [hsame hcode] at hi
    contradiction
  | ended hcode hi effect =>
    obtain rfl := Option.some.inj (hi.symm.trans (hsame hcode))
    exact ⟨_, _, effect, .inl rfl⟩
  | stopped hcode hi effect =>
    obtain rfl := Option.some.inj (hi.symm.trans (hsame hcode))
    exact ⟨_, _, effect, .inl rfl⟩
  | gone hcode hi effect =>
    obtain rfl := Option.some.inj (hi.symm.trans (hsame hcode))
    exact ⟨_, _, effect, .inr rfl⟩

theorem console_of_print (h : Stepped c p m s value e? m' s') (hp : Program.ofText? t = some p)
    (ht : t[m.position]? = some '.') : s' = c.write [⟨value⟩] s := by
  obtain ⟨e₁, m₁, heffect, -⟩ := h.exists_effect (i := .print) hp ht
  cases heffect with
  | print => rfl

theorem atMost (h : Stepped c p m s value e? m' s') (hp : Program.ofText? t = some p)
    (hcell : m.cell? = some value) (hm : m.AtMost bound) (hbyte : 255 ≤ bound)
    (htaken : ∀ first, taken? c t m s = some first → first.toNat ≤ bound) : m'.AtMost bound := by
  cases h with
  | completed | comment | stoppedInComment => exact hm
  | ended hcode hi effect | stopped hcode hi effect | gone hcode hi effect =>
    exact effect.atMost (Program.getElem?_of_instruction hp hcode hi) hcell hm hbyte htaken

end Stepped

/-- One of the first `k` steps of the execution stores this character. -/
def Stored (c : Console σ) (t : Text) (a : σ) (k : Nat) (first : Char) : Prop :=
  ∃ j < k, ∃ m s, Visits c t a j m s ∧ taken? c t m s = some first

section Execution

variable {a : σ}

theorem Stored.mono {j : Nat} {first : Char} (h : Stored c t a j first) (hjk : j ≤ k) :
    Stored c t a k first := by
  obtain ⟨i, hi, htaken⟩ := h
  exact ⟨i, by omega, htaken⟩

/-- A step from a state that the execution comes to keeps a ceiling that is not below the largest
byte, nor below anything stored up to then and in this step. -/
theorem atMost_step (hp : Program.ofText? t = some p) (hvisits : Visits c t a k m s)
    (hm : m.AtMost bound) (hbyte : 255 ≤ bound)
    (hstored : ∀ first, Stored c t a (k + 1) first → first.toNat ≤ bound) :
    (step c p m s).machine.AtMost bound := by
  have hon := (hvisits.passes hp).onTape hp onTape_initial
  obtain ⟨value, hcell⟩ := hon.exists_cell?
  refine (stepped_step hcell p s).atMost hp hcell hm hbyte fun first htaken => ?_
  exact hstored first ⟨k, Nat.lt_succ_self k, m, s, hvisits, htaken⟩

theorem atMost_of_visits (hvisits : Visits c t a k m s) (hbyte : 255 ≤ bound)
    (hstored : ∀ first, Stored c t a k first → first.toNat ≤ bound) : m.AtMost bound := by
  obtain ⟨p, hp, hpasses⟩ := hvisits
  induction hpasses with
  | start => exact atMost_initial
  | @next k m₁ m₂ s₁ s₂ before hgo ih =>
    have hm₁ : m₁.AtMost bound := ih fun first h => hstored first (h.mono (Nat.le_succ k))
    have hstep := atMost_step hp ⟨p, hp, before⟩ hm₁ hbyte hstored
    rwa [hgo] at hstep

/-- A byte, or at most one of the characters that the first `k` steps stored. -/
def InRange (c : Console σ) (t : Text) (a : σ) (k cell : Nat) : Prop :=
  cell ≤ 255 ∨ ∃ first, Stored c t a k first ∧ cell ≤ first.toNat

theorem inRange_of_ceilings {cell : Nat}
    (h : ∀ bound, 255 ≤ bound → (∀ first, Stored c t a k first → first.toNat ≤ bound) →
      cell ≤ bound) : InRange c t a k cell := by
  by_contra hnot
  obtain ⟨hbyte, hstored⟩ := not_or.mp hnot
  -- one less would be a ceiling that the cell exceeds
  have hle : cell ≤ cell - 1 := by
    refine h (cell - 1) (by omega) fun first hfirst => ?_
    have hlt : ¬ cell ≤ first.toNat := fun hle => hstored ⟨first, hfirst, hle⟩
    omega
  omega

theorem InRange.mono {j cell : Nat} (h : InRange c t a j cell) (hjk : j ≤ k) :
    InRange c t a k cell := by
  rcases h with hbyte | ⟨first, hfirst, hle⟩
  · exact .inl hbyte
  · exact .inr ⟨first, hfirst.mono hjk, hle⟩

theorem inRange_of_visits (hvisits : Visits c t a k m s) {cell : Nat} (hcell : cell ∈ m.memory) :
    InRange c t a k cell :=
  inRange_of_ceilings fun _ hbyte hstored => atMost_of_visits hvisits hbyte hstored cell hcell

theorem inRange_step (hp : Program.ofText? t = some p) (hvisits : Visits c t a k m s) {cell : Nat}
    (hcell : cell ∈ (step c p m s).machine.memory) : InRange c t a (k + 1) cell := by
  refine inRange_of_ceilings fun bound hbyte hstored => ?_
  have hm := atMost_of_visits hvisits hbyte fun first h => hstored first (h.mono (Nat.le_succ k))
  exact atMost_step hp hvisits hm hbyte hstored cell hcell

theorem inRange_execute (c : Console σ) (t : Text) (a : σ) (fuel : Nat) {m : Machine}
    (hm : (execute c fuel (.ok t) a).machine? = some m) {cell : Nat} (hcell : cell ∈ m.memory) :
    InRange c t a fuel cell := by
  cases hp : Program.ofText? t with
  | none =>
    rw [execute_of_overclosed ((Program.ofText?_eq_none_iff t).mp hp)] at hm
    obtain rfl := Option.some.inj hm
    exact .inl (atMost_initial cell hcell)
  | some p =>
    rw [execute_of_program hp, Outcome.machine?_settled] at hm
    rcases run_cases c p fuel initial (c.setSwitches ⟨false, true⟩ a) with
      ⟨k, m₁, s₁, e, m₂, s₂, hk, hpasses, hend, hrun⟩ | ⟨m₁, s₁, hpasses, hrun⟩
    · rw [hrun] at hm
      obtain rfl := Option.some.inj hm
      have hmem : cell ∈ (step c p m₁ s₁).machine.memory := by
        rw [hend]
        exact hcell
      exact (inRange_step hp ⟨p, hp, hpasses⟩ hmem).mono hk
    · rw [hrun] at hm
      obtain rfl := Option.some.inj hm
      exact inRange_of_visits ⟨p, hp, hpasses⟩ hcell

end Execution

/-- What a step does with the value under the pointer, when all that was read so far are bytes. -/
structure CountsModulo (t : Text) (m m' : Machine) (value : Nat) : Prop where
  bytes : ∀ cell ∈ m.memory, cell < 256
  increment : t[m.position]? = some '+' →
    ∃ more : Nat, m'.cell? = some more ∧ (more : Int) = (value + 1) % 256
  decrement : t[m.position]? = some '-' →
    ∃ less : Nat, m'.cell? = some less ∧ (less : Int) = (value - 1) % 256

theorem Stepped.countsModulo (h : Stepped c p m s value e? m' s') (hp : Program.ofText? t = some p)
    (hon : m.OnTape) (hcell : m.cell? = some value) (hm : m.AtMost 255) :
    CountsModulo t m m' value := by
  have hvalue := hm.cell_le hcell
  refine ⟨fun cell hmem => Nat.lt_succ_of_le (hm cell hmem), fun ht => ?_, fun ht => ?_⟩
  · obtain ⟨e₁, m₁, heffect, hm'⟩ := h.exists_effect (i := .increment) hp ht
    cases heffect with
    | increment =>
      refine ⟨successor value, ?_, successor_of_byte hvalue⟩
      rcases hm' with rfl | rfl
      · exact hon.cell?_store _
      · exact hon.cell?_store _
  · obtain ⟨e₁, m₁, heffect, hm'⟩ := h.exists_effect (i := .decrement) hp ht
    cases heffect with
    | decrement =>
      refine ⟨predecessor value, ?_, predecessor_of_byte hvalue⟩
      rcases hm' with rfl | rfl
      · exact hon.cell?_store _
      · exact hon.cell?_store _

/-- Wherever an execution comes to, on any console, each cell is a byte or at most one of the
characters stored so far; so it is after the step from there, and when the execution ends. What is
printed is always the value of a code point. And if only bytes were stored so far, then all cells
are bytes, and an increment or a decrement there counts modulo 256. -/
theorem cell_range (c : Console σ) (t : Text) (a : σ) :
    (∀ k m s, Visits c t a k m s → ∀ cell ∈ m.memory, InRange c t a k cell) ∧
    (∀ p k m s, Program.ofText? t = some p → Visits c t a k m s →
      (∀ cell ∈ (step c p m s).machine.memory, InRange c t a (k + 1) cell) ∧
      ∃ value, m.cell? = some value ∧ value ≤ CodePoint.largest ∧
        (t[m.position]? = some '.' → (step c p m s).console = c.write [⟨value⟩] s) ∧
        ((∀ first, Stored c t a k first → first.toNat ≤ 255) →
          CountsModulo t m (step c p m s).machine value)) ∧
    ∀ fuel m, (execute c fuel (.ok t) a).machine? = some m →
      ∀ cell ∈ m.memory, InRange c t a fuel cell := by
  refine ⟨fun k m s hvisits cell => inRange_of_visits hvisits, ?_,
    fun fuel m hm cell => inRange_execute c t a fuel hm⟩
  intro p k m s hp hvisits
  have hon := (hvisits.passes hp).onTape hp onTape_initial
  obtain ⟨value, hcell⟩ := hon.exists_cell?
  have hstepped := stepped_step (c := c) hcell p s
  refine ⟨fun cell => inRange_step hp hvisits, value, hcell, ?_, fun ht => ?_, fun hbytes => ?_⟩
  · have hm : m.AtMost CodePoint.largest :=
      atMost_of_visits hvisits (by decide) fun first _ => CodePoint.toNat_le_largest first
    exact hm.cell_le hcell
  · exact hstepped.console_of_print hp ht
  · exact hstepped.countsModulo hp hon hcell (atMost_of_visits hvisits (Nat.le_refl 255) hbytes)

/-- Below zero there is the largest byte. Then a letter is read that is no byte, and one less than
it is on the tape. -/
theorem cell_range_letter :
    let start := Terminal.initial ⟨false, true⟩ ["Ж".toList] none none
    let read := start.readLine.2
    Visits Terminal.console "-,-".toList start 3 ⟨3, 0, #[1045]⟩ read ∧
      (∃ first, Stored Terminal.console "-,-".toList start 3 first ∧ 1045 ≤ first.toNat) ∧
      ∃ p, Program.ofText? "-,-".toList = some p ∧
        CountsModulo "-,-".toList initial (step Terminal.console p initial start).machine 0 := by
  intro start read
  have hvisits : Visits Terminal.console "-,-".toList start 3 ⟨3, 0, #[1045]⟩ read :=
    ⟨_, rfl, .next (.next (.next .start rfl) rfl) rfl⟩
  obtain ⟨hrange, hsteps, -⟩ := cell_range Terminal.console "-,-".toList start
  refine ⟨hvisits, ?_, _, rfl, ?_⟩
  · exact (hrange 3 _ _ hvisits 1045 (by simp)).resolve_left (by decide)
  · obtain ⟨-, value, hcell, -, -, hcounts⟩ := hsteps _ 0 initial start rfl ⟨_, rfl, .start⟩
    obtain rfl : 0 = value := Option.some.inj hcell
    refine hcounts fun first hstored => ?_
    obtain ⟨j, hj, -⟩ := hstored
    exact absurd hj (Nat.not_lt_zero j)

end Machine

end TapeStudio
