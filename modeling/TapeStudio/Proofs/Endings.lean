import TapeStudio.Proofs.TapeInvariant
import TapeStudio.Proofs.WhileRunning

/-! How executions at a terminal end: refused for their brackets, at the end of the text, or short
of it, at one of a few instructions. -/
namespace TapeStudio

open Brackets Machine

theorem typedOn?_eq_none_iff {line : Text} : typedOn? line = none ↔ line = [] := by
  cases line with
  | nil => simp [typedOn?]
  | cons first rest =>
    simp only [typedOn?, List.isEmpty_cons, Bool.false_eq_true, if_false]
    split <;> simp

theorem typedOn?_eq_some_nil_iff {line : Text} : typedOn? line = some [] ↔ line = ['\n'] := by
  cases line with
  | nil => simp [typedOn?]
  | cons first rest =>
    simp only [typedOn?, List.isEmpty_cons, Bool.false_eq_true, if_false]
    cases rest with
    | nil => by_cases h : first = '\n' <;> simp [h]
    | cons second rest => split <;> simp

namespace Terminal

/-- The last instruction of an execution that ends short of the end of its text, with its ending and
what it leaves. `m` and `s` are the machine and the terminal before it. -/
inductive CutShort (t : Text) (m : Machine) (s : Terminal) :
    Ending → Machine → Terminal → Prop where
  /-- An open bracket without a partner, on a zero. -/
  | unmatched (h : t[m.position]? = some '[') (hopen : ∀ j, ¬ Matches t m.position j)
      (hcell : m.cell? = some 0) :
      CutShort t m s .unmatchedBracket m (console.announce "Key Error" s)
  /-- A step to the left of the first cell. -/
  | leftEnd (h : t[m.position]? = some '<') (hpointer : m.pointer = 0) :
      CutShort t m s .leftEnd { m with pointer := -1 } (console.announce "Range error" s)
  /-- A reading for which there is no line. -/
  | endOfInput (h : t[m.position]? = some ',')
      (hline : s.lines.head? = none ∨ s.lines.head? = some []) :
      CutShort t m s .endOfInput m s.readLine.2
  /-- A reading of a line on which nothing was typed. -/
  | emptyLine (h : t[m.position]? = some ',') (hline : s.lines.head? = some ['\n']) :
      CutShort t m s .emptyLine m s.readLine.2
  /-- A reading during which the stop switch is thrown. -/
  | stoppedInRead {line rest : Text} {first : Char} (h : t[m.position]? = some ',')
      (hline : s.lines.head? = some line) (htyped : typedOn? line = some (first :: rest))
      (hbefore : s.switches.stop = false) (hafter : s.readLine.2.switches.stop = true) :
      CutShort t m s .stopped (m.store first.toNat) s.readLine.2
  /-- A print during which the stop switch is thrown. -/
  | stoppedInPrint {value : Nat} (h : t[m.position]? = some '.') (hcell : m.cell? = some value)
      (hbefore : s.switches.stop = false) (hafter : (s.write [⟨value⟩]).switches.stop = true) :
      CutShort t m s .stopped m (s.write [⟨value⟩])

section Step

variable {t : Text} {p : Program} {m m' : Machine} {s s' : Terminal} {value : Nat}

theorem readLine_eq {reading : Reading} (h : console.readLine s = (reading, s')) :
    reading = .line (s.lines.head?.getD []) ∧ s' = s.readLine.2 := by
  have heq : console.readLine s = (.line (s.lines.head?.getD []), s.readLine.2) := rfl
  rw [heq] at h
  simpa [eq_comm] using h

/-- An instruction that ends an execution. -/
theorem cutShort_of_effect {i : Instruction} {e : Ending} (hp : Program.ofText? t = some p)
    (hm : m.OnTape) (hcell : m.cell? = some value) (ht : t[m.position]? = some i.symbol)
    (h : Effect console p.jumps m s value i (some e) m' s') : CutShort t m s e m' s' := by
  cases h with
  | leftEnd hle =>
    have hzero : m.pointer = 0 := by
      have := hm.nonneg
      omega
    have hleft : m.moveLeft = { m with pointer := -1 } := by simp [moveLeft, hzero]
    rw [hleft]
    exact .leftEnd ht hzero
  | interrupted hread => simpa using (readLine_eq hread).1
  | endOfInput hread hline =>
    obtain ⟨hreading, rfl⟩ := readLine_eq hread
    obtain rfl := Reading.line.inj hreading
    rw [typedOn?_eq_none_iff] at hline
    refine .endOfInput ht ?_
    cases hhead : s.lines.head? <;> simp_all
  | emptyLine hread hline =>
    obtain ⟨hreading, rfl⟩ := readLine_eq hread
    obtain rfl := Reading.line.inj hreading
    rw [typedOn?_eq_some_nil_iff] at hline
    refine .emptyLine ht ?_
    cases hhead : s.lines.head? <;> simp_all
  | unmatchedStart hzero hjump =>
    exact .unmatched ht (Program.not_matches_of_open hp ht hjump) (hzero ▸ hcell)
  | unmatchedEnd _ hjump =>
    obtain ⟨i, hi⟩ := Program.exists_jump_of_close hp ht
    simp [hi] at hjump

/-- An instruction during which the stop switch is thrown. -/
theorem cutShort_of_stop {i : Instruction} (hcell : m.cell? = some value)
    (ht : t[m.position]? = some i.symbol) (hbefore : s.switches.stop = false)
    (hafter : s'.switches.stop = true)
    (h : Effect console p.jumps m s value i none m' s') : CutShort t m s .stopped m' s' := by
  cases h with
  | print => exact .stoppedInPrint ht hcell hbefore hafter
  | read hread htyped =>
    obtain ⟨hreading, rfl⟩ := readLine_eq hread
    obtain rfl := Reading.line.inj hreading
    cases hhead : s.lines.head? with
    | none => simp [hhead, typedOn?] at htyped
    | some line => exact .stoppedInRead ht hhead (by simpa [hhead] using htyped) hbefore hafter
  | moveRight | moveLeft | increment | decrement | enter | skip | leave | again =>
    simp [hbefore] at hafter

theorem CutShort.ending_ne {e : Ending} (h : CutShort t m s e m' s') :
    e ≠ .completed ∧ e ≠ .unbalancedBrackets := by
  cases h <;> simp

/-- It is the text that has the instruction, and the position stays there. -/
theorem CutShort.position {e : Ending} (h : CutShort t m s e m' s') :
    m.position < t.length ∧ m'.position = m.position := by
  have hlt {character : Char} (ht : t[m.position]? = some character) : m.position < t.length :=
    (List.getElem?_eq_some_iff.mp ht).1
  cases h with
  | unmatched ht | leftEnd ht | endOfInput ht | emptyLine ht | stoppedInRead ht
  | stoppedInPrint ht => exact ⟨hlt ht, rfl⟩

/-- The last step of an execution finds the end of the text or is cut short. -/
theorem step_cases {e : Ending} (hp : Program.ofText? t = some p) (hm : m.OnTape)
    (hstop : s.switches.stop = false) (h : step console p m s = ⟨some e, m', s'⟩) :
    (e = .completed ∧ t.length ≤ m.position ∧ m' = m ∧ s' = s) ∨ CutShort t m s e m' s' := by
  obtain ⟨value, hcell, hstepped⟩ := hm.stepped h
  cases hstepped with
  | completed hcode =>
    rw [Program.getElem?_code hp, List.getElem?_eq_none_iff] at hcode
    exact .inl ⟨rfl, hcode, rfl, rfl⟩
  | stoppedInComment _ _ hs =>
    have hs : s.switches.stop = true := hs
    simp [hstop] at hs
  | ended hcode hi effect =>
    have ht := Program.getElem?_of_instruction hp hcode hi
    exact .inr (cutShort_of_effect hp hm hcell ht effect)
  | stopped hcode hi effect hs =>
    have ht := Program.getElem?_of_instruction hp hcode hi
    exact .inr (cutShort_of_stop hcell ht hstop hs effect)

end Step

/-- Nothing that a program does at a terminal turns `running` off. -/
theorem maintains_running : console.Maintains (fun s => s.switches.running = true)
    fun s => s.switches.running = true := by
  have hstopIf (due : Bool) (x : Switches) : (stopIf due x).running = x.running := by
    cases due <;> rfl
  refine ⟨fun _ s hs => (hstopIf _ _).trans hs, ?_, ?_⟩
  · intro s s' line hs hread
    obtain ⟨-, rfl⟩ := readLine_eq hread
    exact (hstopIf _ _).trans hs
  · intro s s' hs hread
    simpa using (readLine_eq hread).1

theorem running_run {s : Terminal} (h : s.switches.running = true) (p : Program) (fuel : Nat)
    (m : Machine) : (run console p fuel m s).console.switches.running = true := by
  simpa [Ending.Leaves] using maintains_running.run h p fuel m

/-- An execution that is not refused, if it ends. -/
theorem execute_cases {t : Text} {p : Program} (hp : Program.ofText? t = some p) (fuel : Nat)
    (start : Terminal) (hends : (execute fuel (.ok t) start).ending ≠ .unfinished) :
    ∃ m, (execute fuel (.ok t) start).machine? = some m ∧
      (((execute fuel (.ok t) start).ending = .completed ∧ m.position = t.length ∧
        (execute fuel (.ok t) start).console.switches.running = false) ∨
      ((execute fuel (.ok t) start).console.switches.running = true ∧
        ∃ k m₀ s₀, Visits console t start k m₀ s₀ ∧ CutShort t m₀ s₀
          (execute fuel (.ok t) start).ending m (execute fuel (.ok t) start).console)) := by
  have hexecute : execute fuel (.ok t) start =
      (run console p fuel Machine.initial (console.setSwitches ⟨false, true⟩ start)).settled
        console :=
    execute_of_program hp fuel start
  have hrunning := running_run (s := console.setSwitches ⟨false, true⟩ start) rfl p fuel .initial
  rcases run_cases console p fuel .initial (console.setSwitches ⟨false, true⟩ start) with
    ⟨k, m₀, s₀, e, m, s, -, hpasses, hend, hrun⟩ | ⟨m, s, -, hrun⟩
  · rw [hrun] at hexecute hrunning
    have hon := hpasses.onTape hp onTape_initial
    rcases step_cases hp hon (hpasses.stop_eq_false rfl) hend with ⟨rfl, hle, rfl, rfl⟩ | hcut
    · have hposition := hpasses.position_le hp onTape_initial (Nat.zero_le _)
      rw [hexecute]
      exact ⟨m, rfl, .inl ⟨rfl, by omega, rfl⟩⟩
    · rw [Outcome.settled, if_neg hcut.ending_ne.1] at hexecute
      rw [hexecute]
      exact ⟨m, rfl, .inr ⟨hrunning, k, m₀, s₀, ⟨p, hp, hpasses⟩, hcut⟩⟩
  · rw [hexecute, hrun] at hends
    exact absurd rfl hends

/-- A closing bracket is never the one without a partner. -/
theorem ending_step_close {t : Text} {p : Program} {start s : Terminal} {k : Nat} {m : Machine}
    (hp : Program.ofText? t = some p) (hvisits : Visits console t start k m s)
    (hclose : t[m.position]? = some ']') :
    (step console p m s).ending? ≠ some .unmatchedBracket := by
  have hpasses := hvisits.passes hp
  intro hending
  rcases hstep : step console p m s with ⟨ending?, m', s'⟩
  obtain rfl : ending? = some .unmatchedBracket := by rw [← hending, hstep]
  rcases step_cases hp (hpasses.onTape hp onTape_initial) (hpasses.stop_eq_false rfl) hstep with
    hcompleted | hcut
  · simp at hcompleted
  · cases hcut with
    | unmatched hopen => simpa using hclose.symm.trans hopen

end Terminal

/-- An execution that ends was refused for its brackets, before anything was read or printed but the
notice; or it came to the end of the text; or it was cut short at an instruction that the text has
there. A closing bracket is never the one that is not matched, and `running` tells whether the end
was reached. -/
theorem execution_endings (t : Text) (switches : Switches) (lines : List Text)
    (onRead onWrite : Option Nat) (fuel : Nat)
    (hends : (Terminal.execute fuel (.ok t) (.initial switches lines onRead onWrite)).ending ≠
      .unfinished) :
    let start := Terminal.initial switches lines onRead onWrite
    let outcome := Terminal.execute fuel (.ok t) start
    ∃ m, outcome.machine? = some m ∧
      (outcome.ending = .unbalancedBrackets ↔ Overclosed t) ∧
      (Overclosed t → outcome.console.reads = 0 ∧
        outcome.console.output = CodePoint.ofText "Parse Error\n".toList ∧
        m.position = 0 ∧ m.pointer = 0 ∧ m.memory = #[0]) ∧
      (¬ Overclosed t →
        (outcome.ending = .completed ∧ m.position = t.length ∧
          outcome.console.switches.running = false) ∨
        (m.position < t.length ∧ outcome.console.switches.running = true ∧
          ∃ k m₀ s₀, Visits Terminal.console t start k m₀ s₀ ∧ m₀.position = m.position ∧
            Terminal.CutShort t m₀ s₀ outcome.ending m outcome.console)) ∧
      (∀ p k m₀ s₀, Program.ofText? t = some p → Visits Terminal.console t start k m₀ s₀ →
        t[m₀.position]? = some ']' → (∃ i, p.jumps[m₀.position]? = some i) ∧
          (step Terminal.console p m₀ s₀).ending? ≠ some .unmatchedBracket) ∧
      (outcome.console.switches.running = false ↔ m.position = t.length) := by
  intro start outcome
  have hclosing (p : Program) (k : Nat) (m₀ : Machine) (s₀ : Terminal)
      (hp : Program.ofText? t = some p) (hvisits : Visits Terminal.console t start k m₀ s₀)
      (hclose : t[m₀.position]? = some ']') : (∃ i, p.jumps[m₀.position]? = some i) ∧
        (step Terminal.console p m₀ s₀).ending? ≠ some .unmatchedBracket :=
    ⟨Program.exists_jump_of_close hp hclose, Terminal.ending_step_close hp hvisits hclose⟩
  by_cases hover : Overclosed t
  · have houtcome : outcome = ⟨.unbalancedBrackets, some initial, conclude Terminal.console
        .unbalancedBrackets (Terminal.console.setSwitches ⟨false, true⟩ start)⟩ :=
      execute_of_overclosed hover fuel start
    have hlength : t.length ≠ 0 := by
      intro hzero
      obtain rfl := List.length_eq_zero_iff.mp hzero
      obtain ⟨u, hu, hlt⟩ := hover
      simp [List.prefix_nil.mp hu] at hlt
    have hrunning := Terminal.maintains_running.conclude
      (s := Terminal.console.setSwitches ⟨false, true⟩ start) rfl .unbalancedBrackets
    rw [houtcome]
    refine ⟨initial, rfl, by simpa using hover, fun _ => ⟨rfl, rfl, rfl, rfl, rfl⟩,
      fun hnot => absurd hover hnot, hclosing, ?_⟩
    have hposition : initial.position ≠ t.length := hlength.symm
    simp [hrunning, hposition]
  · obtain ⟨p, hp⟩ := Program.exists_ofText? hover
    obtain ⟨m, hm, ⟨hcompleted, hposition, hrunning⟩ | ⟨hrunning, k, m₀, s₀, hvisits, hcut⟩⟩ :=
      Terminal.execute_cases hp fuel start hends
    · refine ⟨m, hm, ?_, fun hover' => absurd hover' hover,
        fun _ => .inl ⟨hcompleted, hposition, hrunning⟩, hclosing, ?_⟩
      · simp [outcome, hcompleted, hover]
      · simp [outcome, hrunning, hposition]
    · obtain ⟨hlt, hposition⟩ := hcut.position
      refine ⟨m, hm, ?_, fun hover' => absurd hover' hover,
        fun _ => .inr ⟨by omega, hrunning, k, m₀, s₀, hvisits, hposition.symm, hcut⟩, hclosing, ?_⟩
      · simp [outcome, hcut.ending_ne.2, hover]
      · have hne : m.position ≠ t.length := by omega
        simp [outcome, hrunning, hne]

/-- A loop that reads a line in each turn ends at the reading for which there is none, with the cell
that was to be read to as it was. -/
theorem execution_endings_in_loop :
    let start := Terminal.initial ⟨false, false⟩ ["b".toList] none none
    let outcome := Terminal.execute 9 (.ok "+[>,]".toList) start
    outcome.ending ≠ .unfinished ∧ outcome.machine? = some ⟨3, 2, #[1, 98, 0]⟩ ∧
      ∃ k m₀ s₀, Visits Terminal.console "+[>,]".toList start k m₀ s₀ ∧ m₀.position = 3 ∧
        Terminal.CutShort "+[>,]".toList m₀ s₀ .endOfInput ⟨3, 2, #[1, 98, 0]⟩
          outcome.console := by
  intro start outcome
  have hends : outcome.ending ≠ .unfinished := by decide
  have hmachine : outcome.machine? = some ⟨3, 2, #[1, 98, 0]⟩ := by decide
  have hover : ¬ Overclosed "+[>,]".toList := by
    rw [← Program.ofText?_eq_none_iff]
    simp [Program.ofText?, JumpTable.ofText?, pairs?, pairsFrom?]
  obtain ⟨m, hm, -, -, hcases, -⟩ := execution_endings "+[>,]".toList _ _ none none 9 hends
  obtain rfl : m = ⟨3, 2, #[1, 98, 0]⟩ := Option.some.inj (hm.symm.trans hmachine)
  rcases hcases hover with ⟨-, hposition, -⟩ | ⟨-, -, k, m₀, s₀, hvisits, hposition, hcut⟩
  · exact absurd hposition (by decide)
  · exact ⟨hends, hmachine, k, m₀, s₀, hvisits, hposition, hcut⟩

end TapeStudio
