import TapeStudio.Proofs.Finishing
import TapeStudio.Proofs.Matching

/-! What one step of the machine can do, and the states that a run passes through. Facts about whole
executions are derived from the two lists of cases here, by induction on the steps. -/
namespace TapeStudio

open Brackets

/-- The character that stands for an instruction. -/
def Instruction.symbol : Instruction → Char
  | .moveRight => '>'
  | .moveLeft => '<'
  | .increment => '+'
  | .decrement => '-'
  | .print => '.'
  | .read => ','
  | .loopStart => '['
  | .loopEnd => ']'

theorem Instruction.ofChar?_eq_some_iff {character : Char} {i : Instruction} :
    ofChar? character = some i ↔ character = i.symbol := by
  constructor
  · intro h
    unfold ofChar? at h
    split at h <;> cases h <;> rfl
  · rintro rfl
    cases i <;> rfl

/-- An instruction of a program is in its text. -/
theorem Program.getElem?_of_instruction {t : Text} {p : Program} {k : Nat} {character : Char}
    {i : Instruction} (hp : ofText? t = some p) (hcode : p.code[k]? = some character)
    (hi : Instruction.ofChar? character = some i) : t[k]? = some i.symbol := by
  rw [← getElem?_code hp, hcode, Instruction.ofChar?_eq_some_iff.mp hi]

namespace Machine

variable {σ : Type}

/-- All that an instruction can do when there is a value under the pointer: the ending if there is
one, the machine and the console it leaves. -/
inductive Effect (c : Console σ) (jumps : JumpTable) (m : Machine) (s : σ) (value : Nat) :
    Instruction → Option Ending → Machine → σ → Prop where
  | moveRight : Effect c jumps m s value .moveRight none m.moveRight s
  | moveLeft (h : 0 < m.pointer) : Effect c jumps m s value .moveLeft none m.moveLeft s
  | leftEnd (h : m.pointer ≤ 0) :
      Effect c jumps m s value .moveLeft (some .leftEnd) m.moveLeft (conclude c .leftEnd s)
  | increment : Effect c jumps m s value .increment none (m.store (successor value)) s
  | decrement : Effect c jumps m s value .decrement none (m.store (predecessor value)) s
  | print : Effect c jumps m s value .print none m (c.write [⟨value⟩] s)
  | interrupted {s' : σ} (h : c.readLine s = (.interrupted, s')) :
      Effect c jumps m s value .read (some .interrupted) m s'
  | endOfInput {line : Text} {s' : σ} (h : c.readLine s = (.line line, s'))
      (hline : typedOn? line = none) : Effect c jumps m s value .read (some .endOfInput) m s'
  | emptyLine {line : Text} {s' : σ} (h : c.readLine s = (.line line, s'))
      (hline : typedOn? line = some []) : Effect c jumps m s value .read (some .emptyLine) m s'
  | read {line : Text} {first : Char} {rest : Text} {s' : σ}
      (h : c.readLine s = (.line line, s')) (hline : typedOn? line = some (first :: rest)) :
      Effect c jumps m s value .read none (m.store first.toNat) s'
  | enter (h : value ≠ 0) : Effect c jumps m s value .loopStart none m s
  | skip {target : Nat} (h : value = 0) (hjump : jumps[m.position]? = some target) :
      Effect c jumps m s value .loopStart none (m.jump target) s
  | unmatchedStart (h : value = 0) (hjump : jumps[m.position]? = none) :
      Effect c jumps m s value .loopStart (some .unmatchedBracket) m
        (conclude c .unmatchedBracket s)
  | leave (h : value = 0) : Effect c jumps m s value .loopEnd none m s
  | again {target : Nat} (h : value ≠ 0) (hjump : jumps[m.position]? = some target) :
      Effect c jumps m s value .loopEnd none (m.jump target) s
  | unmatchedEnd (h : value ≠ 0) (hjump : jumps[m.position]? = none) :
      Effect c jumps m s value .loopEnd (some .unmatchedBracket) m (conclude c .unmatchedBracket s)

variable {c : Console σ} {p : Program} {m m' m'' : Machine} {s s' s'' : σ} {value k : Nat}

theorem effect_perform (h : m.cell? = some value) (jumps : JumpTable) (i : Instruction) (s : σ) :
    Effect c jumps m s value i (perform c jumps i m s).ending? (perform c jumps i m s).machine
      (perform c jumps i m s).console := by
  cases i with
  | moveRight => exact .moveRight
  | moveLeft =>
    by_cases hpointer : m.moveLeft.pointer < 0
    · simp only [perform, if_pos hpointer]
      exact .leftEnd (by simp only [Machine.moveLeft] at hpointer; omega)
    · simp only [perform, if_neg hpointer]
      exact .moveLeft (by simp only [Machine.moveLeft] at hpointer; omega)
  | increment =>
    simp only [perform, withCell, h]
    exact .increment
  | decrement =>
    simp only [perform, withCell, h]
    exact .decrement
  | print =>
    simp only [perform, withCell, h]
    exact .print
  | read =>
    simp only [perform, readCell]
    split
    next s' hread => exact .interrupted hread
    next line s' hread =>
      split
      next hline => exact .endOfInput hread hline
      next hline => exact .emptyLine hread hline
      next first rest hline => exact .read hread hline
  | loopStart =>
    simp only [perform, withCell, h, takeJump]
    split
    next hzero =>
      split
      next target hjump => exact .skip hzero hjump
      next hjump => exact .unmatchedStart hzero hjump
    next hzero => exact .enter hzero
  | loopEnd =>
    simp only [perform, withCell, h, takeJump]
    split
    next hzero => exact .leave hzero
    next hzero =>
      split
      next target hjump => exact .again hzero hjump
      next hjump => exact .unmatchedEnd hzero hjump

theorem Effect.perform_eq {jumps : JumpTable} {i : Instruction} {e? : Option Ending}
    (h : Effect c jumps m s value i e? m' s') (hcell : m.cell? = some value) :
    perform c jumps i m s = ⟨e?, m', s'⟩ := by
  cases h with
  | moveRight => rfl
  | moveLeft hpointer =>
    have hleft : ¬ m.moveLeft.pointer < 0 := by simp only [Machine.moveLeft]; omega
    simp only [perform, if_neg hleft, Turn.go]
  | leftEnd hpointer =>
    have hleft : m.moveLeft.pointer < 0 := by simp only [Machine.moveLeft]; omega
    simp only [perform, if_pos hleft, Turn.halt]
  | increment | decrement | print => simp only [perform, withCell, hcell, Turn.go]
  | interrupted hread =>
    simp only [perform, readCell, hread, Turn.halt]
    rfl
  | endOfInput hread hline | emptyLine hread hline =>
    simp only [perform, readCell, hread, hline, Turn.halt]
    rfl
  | read hread hline => simp only [perform, readCell, hread, hline, Turn.go]
  | enter hvalue | leave hvalue => simp [perform, withCell, hcell, hvalue, Turn.go]
  | skip hvalue hjump | again hvalue hjump =>
    simp [perform, withCell, hcell, hvalue, takeJump, hjump, Turn.go]
  | unmatchedStart hvalue hjump | unmatchedEnd hvalue hjump =>
    simp [perform, withCell, hcell, hvalue, takeJump, hjump, Turn.halt]

/-- All that a step can do when there is a value under the pointer. -/
inductive Stepped (c : Console σ) (p : Program) (m : Machine) (s : σ) (value : Nat) :
    Option Ending → Machine → σ → Prop where
  | completed (h : p.code[m.position]? = none) : Stepped c p m s value (some .completed) m s
  | comment {character : Char} (h : p.code[m.position]? = some character)
      (hi : Instruction.ofChar? character = none) (hs : (c.switches s).stop = false) :
      Stepped c p m s value none m.advance s
  | stoppedInComment {character : Char} (h : p.code[m.position]? = some character)
      (hi : Instruction.ofChar? character = none) (hs : (c.switches s).stop = true) :
      Stepped c p m s value (some .stopped) m s
  | ended {character : Char} {i : Instruction} {e : Ending} {m' : Machine} {s' : σ}
      (h : p.code[m.position]? = some character) (hi : Instruction.ofChar? character = some i)
      (effect : Effect c p.jumps m s value i (some e) m' s') : Stepped c p m s value (some e) m' s'
  | stopped {character : Char} {i : Instruction} {m' : Machine} {s' : σ}
      (h : p.code[m.position]? = some character) (hi : Instruction.ofChar? character = some i)
      (effect : Effect c p.jumps m s value i none m' s') (hs : (c.switches s').stop = true) :
      Stepped c p m s value (some .stopped) m' s'
  | gone {character : Char} {i : Instruction} {m' : Machine} {s' : σ}
      (h : p.code[m.position]? = some character) (hi : Instruction.ofChar? character = some i)
      (effect : Effect c p.jumps m s value i none m' s') (hs : (c.switches s').stop = false) :
      Stepped c p m s value none m'.advance s'

theorem stepped_step (h : m.cell? = some value) (p : Program) (s : σ) :
    Stepped c p m s value (step c p m s).ending? (step c p m s).machine
      (step c p m s).console := by
  unfold step
  split
  next hcode => exact .completed hcode
  next character hcode =>
    cases hi : Instruction.ofChar? character with
    | none =>
      cases hs : (c.switches s).stop with
      | true =>
        simp only [Turn.go, hs, if_true]
        exact .stoppedInComment hcode hi hs
      | false =>
        simp only [Turn.go, hs, Bool.false_eq_true, if_false]
        exact .comment hcode hi hs
    | some i =>
      have heffect := effect_perform (c := c) h p.jumps i s
      dsimp only
      generalize perform c p.jumps i m s = turn at heffect
      obtain ⟨ending?, m', s'⟩ := turn
      cases ending? with
      | some e => exact .ended hcode hi heffect
      | none =>
        cases hs : (c.switches s').stop with
        | true =>
          simp only [hs, if_true]
          exact .stopped hcode hi heffect hs
        | false =>
          simp only [hs, Bool.false_eq_true, if_false]
          exact .gone hcode hi heffect hs

theorem Stepped.step_eq {e? : Option Ending} (h : Stepped c p m s value e? m' s')
    (hcell : m.cell? = some value) : step c p m s = ⟨e?, m', s'⟩ := by
  cases h with
  | completed hcode => exact step_of_end hcode
  | comment hcode hi hs => exact step_of_comment hcode hi hs
  | stoppedInComment hcode hi hs => simp [step, hcode, hi, Turn.go, hs]
  | ended hcode hi effect => exact step_of_halt hcode hi (effect.perform_eq hcell)
  | stopped hcode hi effect hs => simp [step, hcode, hi, effect.perform_eq hcell, hs]
  | gone hcode hi effect hs => exact step_of_go hcode hi (effect.perform_eq hcell) hs

theorem Stepped.ne_unfinished {e? : Option Ending} (h : Stepped c p m s value e? m' s') :
    e? ≠ some .unfinished := by
  cases h with
  | completed | comment | stoppedInComment | stopped | gone => simp
  | ended _ _ effect => cases effect <;> simp

/-- After so many steps the run comes to this state, in front of the next character. -/
inductive Passes (c : Console σ) (p : Program) (m : Machine) (s : σ) :
    Nat → Machine → σ → Prop where
  | start : Passes c p m s 0 m s
  | next {k : Nat} {m' m'' : Machine} {s' s'' : σ} (before : Passes c p m s k m' s')
      (h : step c p m' s' = .go m'' s'') : Passes c p m s (k + 1) m'' s''

namespace Passes

theorem of_go (h : step c p m s = .go m' s') (hp : Passes c p m' s' k m'' s'') :
    Passes c p m s (k + 1) m'' s'' := by
  induction hp with
  | start => exact .next .start h
  | next _ hstep ih => exact .next ih hstep

/-- A run passes through one state only after a number of steps. -/
theorem unique (h : Passes c p m s k m' s') (h' : Passes c p m s k m'' s'') :
    m' = m'' ∧ s' = s'' := by
  induction h generalizing m'' s'' with
  | start =>
    cases h'
    exact ⟨rfl, rfl⟩
  | next _ hstep ih =>
    cases h' with
    | next before hstep' =>
      obtain ⟨rfl, rfl⟩ := ih before
      have heq := hstep.symm.trans hstep'
      simpa [Turn.go] using heq

/-- Of two states of a run the later one is passed through after the earlier one. -/
theorem between {j : Nat} (h : Passes c p m s j m' s') (h' : Passes c p m s k m'' s'')
    (hjk : j ≤ k) : Passes c p m' s' (k - j) m'' s'' := by
  induction h' with
  | start =>
    obtain rfl : j = 0 := by omega
    cases h
    exact .start
  | @next k _ _ _ _ before hstep ih =>
    rcases Nat.eq_or_lt_of_le hjk with rfl | hlt
    · obtain ⟨rfl, rfl⟩ := h.unique (.next before hstep)
      rw [Nat.sub_self]
      exact .start
    · rw [Nat.sub_add_comm (by omega)]
      exact .next (ih (by omega)) hstep

/-- A run goes on from each state that it passes through. -/
theorem run_eq (h : Passes c p m s k m' s') (n : Nat) : run c p (k + n) m s = run c p n m' s' := by
  induction h generalizing n with
  | start => rw [Nat.zero_add]
  | @next k _ _ _ _ _ hstep ih =>
    rw [Nat.add_assoc, Nat.add_comm 1, ih, run, hstep]
    rfl

theorem run_eq_of_halt {n : Nat} {e : Ending} (h : Passes c p m s k m' s') (hkn : k < n)
    (hstep : step c p m' s' = ⟨some e, m'', s''⟩) : run c p n m s = ⟨e, some m'', s''⟩ := by
  obtain ⟨j, rfl⟩ : ∃ j, n = k + (j + 1) := ⟨n - k - 1, by omega⟩
  rw [h.run_eq, run, hstep]

/-- Whatever each step keeps holds of every state that a run passes through. -/
theorem invariant {I : Machine → σ → Prop} (h : Passes c p m s k m' s')
    (hstep : ∀ {m m' s s'}, I m s → step c p m s = .go m' s' → I m' s') (hI : I m s) :
    I m' s' := by
  induction h with
  | start => exact hI
  | next _ hgo ih => exact hstep ih hgo

end Passes

/-- A run ends in the step after some state that it passes through, or comes to a state for which
the bound leaves no step. -/
theorem run_cases (c : Console σ) (p : Program) (n : Nat) (m : Machine) (s : σ) :
    (∃ k m' s' e m'' s'', k < n ∧ Passes c p m s k m' s' ∧
      step c p m' s' = ⟨some e, m'', s''⟩ ∧ run c p n m s = ⟨e, some m'', s''⟩) ∨
    ∃ m' s', Passes c p m s n m' s' ∧ run c p n m s = ⟨.unfinished, some m', s'⟩ := by
  induction n generalizing m s with
  | zero => exact .inr ⟨m, s, .start, rfl⟩
  | succ n ih =>
    rcases hstep : step c p m s with ⟨_ | e, m₁, s₁⟩
    · have hrun : run c p (n + 1) m s = run c p n m₁ s₁ := by rw [run, hstep]
      rw [hrun]
      rcases ih m₁ s₁ with ⟨k, m', s', e, m'', s'', hk, hp, hend, heq⟩ | ⟨m', s', hp, heq⟩
      · exact .inl ⟨k + 1, m', s', e, m'', s'', by omega, .of_go hstep hp, hend, heq⟩
      · exact .inr ⟨m', s', .of_go hstep hp, heq⟩
    · have hrun : run c p (n + 1) m s = ⟨e, some m₁, s₁⟩ := by rw [run, hstep]
      exact .inl ⟨0, m, s, e, m₁, s₁, by omega, .start, hstep, hrun⟩

/-- The look at the stop switch: a run goes on only if it is off. -/
theorem stop_of_step (h : step c p m s = .go m' s') : (c.switches s').stop = false := by
  unfold step at h
  split at h
  · simp [Turn.go] at h
  · dsimp only at h
    split at h
    · simp [Turn.go] at h
    next s₁ _ =>
      cases hs : (c.switches s₁).stop with
      | true => simp [Turn.go, hs] at h
      | false =>
        simp only [hs, Bool.false_eq_true, if_false, Turn.go, Turn.mk.injEq] at h
        rw [← h.2.2, hs]

theorem Passes.stop_eq_false (h : Passes c p m s k m' s') (hs : (c.switches s).stop = false) :
    (c.switches s').stop = false := by
  cases h with
  | start => exact hs
  | next _ hstep => exact stop_of_step hstep

/-! Executions of a text. -/

section Execution

variable {t : Text}

/-- The execution of a text on a console passes through this state, after so many steps. -/
def Visits (c : Console σ) (t : Text) (a : σ) (k : Nat) (m : Machine) (s : σ) : Prop :=
  ∃ p, Program.ofText? t = some p ∧ Passes c p initial (c.setSwitches ⟨false, true⟩ a) k m s

theorem Visits.passes {a : σ} (h : Visits c t a k m s) (hp : Program.ofText? t = some p) :
    Passes c p initial (c.setSwitches ⟨false, true⟩ a) k m s := by
  obtain ⟨q, hq, hpasses⟩ := h
  obtain rfl : p = q := Option.some.inj (hp.symm.trans hq)
  exact hpasses

/-- A run that completes turns `running` off. -/
def Outcome.settled (c : Console σ) (o : Outcome σ) : Outcome σ :=
  if o.ending = .completed then { o with console := c.setRunning false o.console } else o

@[simp] theorem Outcome.ending_settled (c : Console σ) (o : Outcome σ) :
    (o.settled c).ending = o.ending := by
  unfold settled
  split <;> rfl

@[simp] theorem Outcome.machine?_settled (c : Console σ) (o : Outcome σ) :
    (o.settled c).machine? = o.machine? := by
  unfold settled
  split <;> rfl

theorem execute_of_program (hp : Program.ofText? t = some p) (fuel : Nat) (a : σ) :
    execute c fuel (.ok t) a =
      (run c p fuel initial (c.setSwitches ⟨false, true⟩ a)).settled c := by
  simp only [execute, runText, load, hp, Outcome.settled]

theorem execute_of_overclosed (h : Overclosed t) (fuel : Nat) (a : σ) :
    execute c fuel (.ok t) a = ⟨.unbalancedBrackets, some initial,
      conclude c .unbalancedBrackets (c.setSwitches ⟨false, true⟩ a)⟩ := by
  have hp := (Program.ofText?_eq_none_iff t).mpr h
  simp [execute, runText, load, hp]

end Execution

end Machine

end TapeStudio
