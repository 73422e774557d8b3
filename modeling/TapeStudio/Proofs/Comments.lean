import TapeStudio.Proofs.CommandText
import TapeStudio.Proofs.Endings

/-! Comments do not matter. A run of a text is followed, command by command, by a run of the text
without its comments; there are never more comments in a row than the text has characters, so that
one run ends if the other does. -/
namespace TapeStudio

open Brackets Text

namespace Machine

variable {σ : Type} {c : Console σ} {t : Text} {p q : Program} {m m' : Machine} {s s' : σ}
  {value k : Nat} {e? : Option Ending}

/-- The machine on the text without its comments. -/
def renumber (t : Text) (m : Machine) : Machine := m.jump (rank t m.position)

/-- An instruction leaves the position at a command. -/
theorem Effect.exists_symbol {i : Instruction} (h : Effect c p.jumps m s value i e? m' s')
    (hp : Program.ofText? t = some p) (ht : t[m.position]? = some i.symbol) :
    ∃ character ∈ Instruction.symbols, t[m'.position]? = some character := by
  cases h with
  | skip _ hjump | again _ hjump =>
    exact Partner.exists_symbol ((Program.getElem?_jumps hp).mp hjump).symm
  | moveRight | moveLeft | leftEnd | increment | decrement | print | interrupted | endOfInput
  | emptyLine | read | enter | unmatchedStart | leave | unmatchedEnd =>
    exact ⟨_, Instruction.symbol_mem _, ht⟩

/-- An instruction does the same without the comments, if the jumps do. -/
theorem Effect.renumber {i : Instruction} {jumps jumps' : JumpTable}
    (h : Effect c jumps m s value i e? m' s')
    (hjumps : jumps'[rank t m.position]? = jumps[m.position]?.map (rank t)) :
    Effect c jumps' (m.renumber t) s value i e? (m'.renumber t) s' := by
  cases h with
  | moveRight => exact .moveRight
  | moveLeft h => exact .moveLeft h
  | leftEnd h => exact .leftEnd h
  | increment => exact .increment
  | decrement => exact .decrement
  | print => exact .print
  | interrupted h => exact .interrupted h
  | endOfInput h hline => exact .endOfInput h hline
  | emptyLine h hline => exact .emptyLine h hline
  | read h hline => exact .read h hline
  | enter h => exact .enter h
  | skip h hjump => exact .skip h (by rw [hjump] at hjumps; exact hjumps)
  | unmatchedStart h hjump => exact .unmatchedStart h (by rw [hjump] at hjumps; exact hjumps)
  | leave h => exact .leave h
  | again h hjump => exact .again h (by rw [hjump] at hjumps; exact hjumps)
  | unmatchedEnd h hjump => exact .unmatchedEnd h (by rw [hjump] at hjumps; exact hjumps)

/-- A step is a comment that is passed over, which the text without comments knows nothing of, or
the same step there. -/
theorem Stepped.renumber (h : Stepped c p m s value e? m' s') (hp : Program.ofText? t = some p)
    (hq : Program.ofText? (commands t) = some q) (hs : (c.switches s).stop = false) :
    (e? = none ∧ m'.position = m.position + 1 ∧ m'.renumber t = m.renumber t ∧ s' = s) ∨
      Stepped c q (m.renumber t) s value e? (m'.renumber t) s' := by
  have hposition : (m.renumber t).position = rank t m.position := rfl
  have hcommand {character : Char} {i : Instruction} (hcode : p.code[m.position]? = some character)
      (hi : Instruction.ofChar? character = some i) :
      q.code[(m.renumber t).position]? = some character ∧
        q.jumps[rank t m.position]? = p.jumps[m.position]?.map (rank t) := by
    have ht := Program.getElem?_of_instruction hp hcode hi
    rw [Program.getElem?_code hq, hposition, getElem?_commands ht i.symbol_mem,
      Instruction.ofChar?_eq_some_iff.mp hi]
    exact ⟨rfl, Program.jumps_commands hp hq ht i.symbol_mem⟩
  cases h with
  | completed hcode =>
    rw [Program.getElem?_code hp, List.getElem?_eq_none_iff] at hcode
    refine .inr (.completed ?_)
    rw [Program.getElem?_code hq, hposition, getElem?_commands_of_length_le hcode]
  | comment hcode hi =>
    rw [Program.getElem?_code hp] at hcode
    refine .inl ⟨rfl, rfl, ?_, rfl⟩
    show m.advance.jump (rank t (m.position + 1)) = m.jump (rank t m.position)
    rw [rank_succ_of_notMem hcode (Instruction.ofChar?_eq_none_iff.mp hi)]
    rfl
  | stoppedInComment _ _ hstop => simp [hs] at hstop
  | ended hcode hi effect =>
    obtain ⟨hcode', hjumps⟩ := hcommand hcode hi
    exact .inr (.ended hcode' hi (effect.renumber hjumps))
  | stopped hcode hi effect hstop =>
    obtain ⟨hcode', hjumps⟩ := hcommand hcode hi
    exact .inr (.stopped hcode' hi (effect.renumber hjumps) hstop)
  | @gone _ _ m' _ hcode hi effect hstop =>
    obtain ⟨hcode', hjumps⟩ := hcommand hcode hi
    obtain ⟨character, hmem, hcharacter⟩ :=
      effect.exists_symbol hp (Program.getElem?_of_instruction hp hcode hi)
    -- A jump may have led to another place, but a command stands there too.
    have hadvance : m'.advance.renumber t = (m'.renumber t).advance := by
      show m'.advance.jump (rank t (m'.position + 1)) = (m'.jump (rank t m'.position)).advance
      rw [rank_succ_of_mem hcharacter hmem]
      rfl
    rw [hadvance]
    exact .inr (.gone hcode' hi (effect.renumber hjumps) hstop)

theorem step_renumber (hp : Program.ofText? t = some p)
    (hq : Program.ofText? (commands t) = some q) (hm : m.OnTape)
    (hs : (c.switches s).stop = false) (h : step c p m s = ⟨e?, m', s'⟩) :
    (e? = none ∧ m'.position = m.position + 1 ∧ m'.renumber t = m.renumber t ∧ s' = s) ∨
      step c q (m.renumber t) s = ⟨e?, m'.renumber t, s'⟩ := by
  obtain ⟨value, hcell, hstepped⟩ := hm.stepped h
  exact (hstepped.renumber hp hq hs).imp_right fun hstepped => hstepped.step_eq hcell

/-- The run without comments passes through the same states. It may be shorter, but not by more than
the comments that fit between two commands. -/
theorem Passes.renumber (h : Passes c p initial s k m' s') (hp : Program.ofText? t = some p)
    (hq : Program.ofText? (commands t) = some q) (hs : (c.switches s).stop = false) :
    ∃ j, Passes c q initial s j (m'.renumber t) s' ∧ k ≤ j * (t.length + 1) + m'.position := by
  induction h with
  | start => exact ⟨0, .start, Nat.zero_le _⟩
  | @next k m' m'' s' s'' before hgo ih =>
    obtain ⟨j, hpasses, hle⟩ := ih
    rcases step_renumber hp hq (before.onTape hp onTape_initial) (before.stop_eq_false hs) hgo with
      ⟨-, hposition, hsame, rfl⟩ | hstep
    · rw [← hsame] at hpasses
      exact ⟨j, hpasses, by omega⟩
    · have hposition := before.position_le hp onTape_initial (Nat.zero_le _)
      exact ⟨j + 1, .next hpasses hstep, by rw [Nat.succ_mul]; omega⟩

/-- A run that ends does so without the comments too, with the same machine and console. -/
theorem Ends.renumber {e : Ending} (h : Ends c p initial s ⟨e, some m', s'⟩)
    (hp : Program.ofText? t = some p) (hq : Program.ofText? (commands t) = some q)
    (hs : (c.switches s).stop = false) : Ends c q initial s ⟨e, some (m'.renumber t), s'⟩ := by
  obtain ⟨n, hne, hrun⟩ := h
  rcases run_cases c p n initial s with
    ⟨k, m₀, s₀, e₁, m₁, s₁, -, hpasses, hend, heq⟩ | ⟨m₀, s₀, -, heq⟩
  · obtain ⟨rfl, rfl, rfl⟩ : e₁ = e ∧ m₁ = m' ∧ s₁ = s' := by simpa using heq.symm.trans hrun
    obtain ⟨j, hpasses', -⟩ := hpasses.renumber hp hq hs
    rcases step_renumber hp hq (hpasses.onTape hp onTape_initial) (hpasses.stop_eq_false hs) hend
      with hcomment | hstep
    · simp at hcomment
    · exact ⟨j + 1, hne, hpasses'.run_eq_of_halt (Nat.lt_succ_self j) hstep⟩
  · rw [hrun] at heq
    exact absurd (congrArg Outcome.ending heq) hne

/-- A run that goes on for long enough does so without the comments. -/
theorem exists_ends_of_commands {o : Outcome σ} (h : Ends c q initial s o)
    (hp : Program.ofText? t = some p) (hq : Program.ofText? (commands t) = some q)
    (hs : (c.switches s).stop = false) :
    ∃ e m' s', Ends c p initial s ⟨e, some m', s'⟩ := by
  obtain ⟨n, hends⟩ := h
  rcases run_cases c p ((n + 1) * (t.length + 1)) initial s with
    ⟨k, m₀, s₀, e, m', s', -, hpasses, hend, heq⟩ | ⟨m₀, s₀, hpasses, -⟩
  · obtain ⟨value, -, hstepped⟩ := (hpasses.onTape hp onTape_initial).stepped hend
    exact ⟨e, m', s', _, fun he => hstepped.ne_unfinished (congrArg some he), heq⟩
  · obtain ⟨j, hpasses', hle⟩ := hpasses.renumber hp hq hs
    have hposition := hpasses.position_le hp onTape_initial (Nat.zero_le _)
    have hnj : n ≤ j := by
      have hmul : (n + 1) * (t.length + 1) < (j + 1) * (t.length + 1) := by
        rw [Nat.succ_mul j]
        omega
      have hlt := Nat.lt_of_mul_lt_mul_right hmul
      omega
    have hunfinished : run c q j initial s = ⟨.unfinished, some (m₀.renumber t), s₀⟩ :=
      hpasses'.run_eq 0
    have hfinished := hends.mono hnj
    rw [EndsIn, hunfinished] at hfinished
    exact absurd (hfinished.2 ▸ rfl) hfinished.1

end Machine

namespace Terminal

open Machine

variable {t u : Text} {start s s' : Terminal} {e e' : Ending} {m m' n : Machine}

/-- An execution is cut short at a command. -/
theorem CutShort.exists_symbol (h : CutShort t m s e m' s') :
    ∃ character ∈ Instruction.symbols, t[m.position]? = some character := by
  cases h with
  | unmatched ht => exact ⟨_, open_mem, ht⟩
  | leftEnd ht => exact ⟨_, Instruction.symbol_mem .moveLeft, ht⟩
  | endOfInput ht | emptyLine ht | stoppedInRead ht =>
    exact ⟨_, Instruction.symbol_mem .read, ht⟩
  | stoppedInPrint ht => exact ⟨_, Instruction.symbol_mem .print, ht⟩

/-- The execution of a text ends like this. -/
def Finishes (t : Text) (start : Terminal) (e : Ending) (m : Machine) (s : Terminal) : Prop :=
  e ≠ .unfinished ∧ ∃ fuel, execute fuel (.ok t) start = ⟨e, some m, s⟩

/-- The execution of a text does not end. -/
def Diverges (t : Text) (start : Terminal) : Prop :=
  ∀ fuel, (execute fuel (.ok t) start).ending = .unfinished

theorem finishes_iff_of_overclosed (h : Overclosed t) :
    Finishes t start e m s ↔ e = .unbalancedBrackets ∧ m = .initial ∧
      s = conclude console .unbalancedBrackets (console.setSwitches ⟨false, true⟩ start) := by
  have hexecute (fuel : Nat) : execute fuel (.ok t) start = _ := execute_of_overclosed h fuel start
  constructor
  · rintro ⟨-, fuel, heq⟩
    simpa [eq_comm] using (hexecute fuel).symm.trans heq
  · rintro ⟨rfl, rfl, rfl⟩
    exact ⟨by simp, 0, hexecute 0⟩

theorem finishes_iff_of_program {p : Program} (hp : Program.ofText? t = some p) :
    Finishes t start e m s ↔ ∃ s₀, Ends console p .initial
      (console.setSwitches ⟨false, true⟩ start) ⟨e, some m, s₀⟩ ∧
        s = (Outcome.settled console ⟨e, some m, s₀⟩).console := by
  have hexecute (fuel : Nat) : execute fuel (.ok t) start = _ := execute_of_program hp fuel start
  constructor
  · rintro ⟨hne, fuel, heq⟩
    rw [hexecute] at heq
    rcases hrun : run console p fuel .initial (console.setSwitches ⟨false, true⟩ start) with
      ⟨e₀, m₀, s₀⟩
    rw [hrun] at heq
    obtain rfl : e₀ = e := by simpa using congrArg Outcome.ending heq
    obtain rfl : m₀ = some m := by simpa using congrArg Outcome.machine? heq
    exact ⟨s₀, ⟨fuel, hne, hrun⟩, by rw [heq]⟩
  · rintro ⟨s₀, ⟨fuel, hne, hrun⟩, rfl⟩
    refine ⟨hne, fuel, ?_⟩
    rw [hexecute, hrun]
    unfold Outcome.settled
    split <;> rfl

theorem Finishes.unique (h : Finishes t start e m s) (h' : Finishes t start e' m' s') :
    e = e' ∧ m = m' ∧ s = s' := by
  by_cases hover : Overclosed t
  · obtain ⟨rfl, rfl, rfl⟩ := (finishes_iff_of_overclosed hover).mp h
    obtain ⟨rfl, rfl, rfl⟩ := (finishes_iff_of_overclosed hover).mp h'
    exact ⟨rfl, rfl, rfl⟩
  · obtain ⟨p, hp⟩ := Program.exists_ofText? hover
    obtain ⟨s₀, hends, rfl⟩ := (finishes_iff_of_program hp).mp h
    obtain ⟨s₀', hends', rfl⟩ := (finishes_iff_of_program hp).mp h'
    obtain ⟨rfl, hm, rfl⟩ := Outcome.mk.inj (hends.unique hends')
    obtain rfl := Option.some.inj hm
    exact ⟨rfl, rfl, rfl⟩

theorem diverges_or_finishes (t : Text) (start : Terminal) :
    Diverges t start ∨ ∃ e m s, Finishes t start e m s := by
  by_cases hover : Overclosed t
  · exact .inr ⟨_, _, _, (finishes_iff_of_overclosed hover).mpr ⟨rfl, rfl, rfl⟩⟩
  · obtain ⟨p, hp⟩ := Program.exists_ofText? hover
    by_cases hdiverges : Diverges t start
    · exact .inl hdiverges
    · obtain ⟨fuel, hends⟩ := not_forall.mp hdiverges
      obtain ⟨m, hm, -⟩ := execute_cases hp fuel start hends
      exact .inr ⟨_, m, _, hends, fuel, by rw [← hm]⟩

theorem Diverges.not_finishes (h : Diverges t start) : ¬ Finishes t start e m s := by
  rintro ⟨hne, fuel, heq⟩
  have hending := h fuel
  rw [heq] at hending
  exact hne hending

/-- An execution that ends does so without the comments too. -/
theorem Finishes.renumber (h : Finishes t start e m s) :
    Finishes (commands t) start e (m.renumber t) s := by
  by_cases hover : Overclosed t
  · obtain ⟨rfl, rfl, rfl⟩ := (finishes_iff_of_overclosed hover).mp h
    exact (finishes_iff_of_overclosed (overclosed_commands.mpr hover)).mpr ⟨rfl, rfl, rfl⟩
  · obtain ⟨p, hp⟩ := Program.exists_ofText? hover
    obtain ⟨q, hq⟩ := Program.exists_ofText? (mt overclosed_commands.mp hover)
    obtain ⟨s₀, hends, rfl⟩ := (finishes_iff_of_program hp).mp h
    refine (finishes_iff_of_program hq).mpr ⟨s₀, hends.renumber hp hq rfl, ?_⟩
    unfold Outcome.settled
    split <;> rfl

theorem exists_finishes_of_commands (h : Finishes (commands t) start e m s) :
    ∃ e m s, Finishes t start e m s := by
  by_cases hover : Overclosed t
  · exact ⟨_, _, _, (finishes_iff_of_overclosed hover).mpr ⟨rfl, rfl, rfl⟩⟩
  · obtain ⟨p, hp⟩ := Program.exists_ofText? hover
    obtain ⟨q, hq⟩ := Program.exists_ofText? (mt overclosed_commands.mp hover)
    obtain ⟨s₀, hends, -⟩ := (finishes_iff_of_program hq).mp h
    obtain ⟨e, m, s, hends'⟩ := exists_ends_of_commands hends hp hq rfl
    exact ⟨e, m, _, (finishes_iff_of_program hp).mpr ⟨s, hends', rfl⟩⟩

/-- Where an execution ends: at the end of the text, before its first character, or at a command. -/
theorem Finishes.position (h : Finishes t start e m s) :
    (e = .completed ∧ m.position = t.length) ∨ (e = .unbalancedBrackets ∧ m.position = 0) ∨
      (e ≠ .completed ∧ e ≠ .unbalancedBrackets ∧
        ∃ character ∈ Instruction.symbols, t[m.position]? = some character) := by
  by_cases hover : Overclosed t
  · obtain ⟨rfl, rfl, -⟩ := (finishes_iff_of_overclosed hover).mp h
    exact .inr (.inl ⟨rfl, rfl⟩)
  · obtain ⟨p, hp⟩ := Program.exists_ofText? hover
    obtain ⟨hne, fuel, hexecute⟩ := h
    have hcases := execute_cases hp fuel start (by rw [hexecute]; exact hne)
    rw [hexecute] at hcases
    obtain ⟨m', hm, ⟨hcompleted, hposition, -⟩ | ⟨-, k, m₀, s₀, -, hcut⟩⟩ := hcases
    · obtain rfl := Option.some.inj hm
      exact .inl ⟨hcompleted, hposition⟩
    · obtain rfl := Option.some.inj hm
      obtain ⟨hcompleted, hbrackets⟩ := hcut.ending_ne
      obtain ⟨character, hmem, hcharacter⟩ := hcut.exists_symbol
      rw [← hcut.position.2] at hcharacter
      exact .inr (.inr ⟨hcompleted, hbrackets, character, hmem, hcharacter⟩)

/-- The places at which two texts with the same commands are left: at both ends, in front of both,
or at the same command. -/
def SamePlace (t u : Text) (i j : Nat) : Ending → Prop
  | .completed => i = t.length ∧ j = u.length
  | .unbalancedBrackets => i = 0 ∧ j = 0
  | _ => rank t i = rank u j ∧
      ∃ character ∈ Instruction.symbols, t[i]? = some character ∧ u[j]? = some character

theorem samePlace_of_finishes (hcommands : commands t = commands u)
    (ht : Finishes t start e m s) (hu : Finishes u start e n s')
    (hrank : rank t m.position = rank u n.position) :
    SamePlace t u m.position n.position e := by
  rcases ht.position with ⟨rfl, hm⟩ | ⟨rfl, hm⟩ | ⟨hcompleted, hbrackets, c, hc, hm⟩
  · exact ⟨hm, by simpa using hu.position⟩
  · exact ⟨hm, by simpa using hu.position⟩
  · obtain ⟨d, hd, hn⟩ : ∃ d ∈ Instruction.symbols, u[n.position]? = some d := by
      simpa [hcompleted, hbrackets] using hu.position
    have hcd : some c = some d := by
      rw [← getElem?_commands hm hc, ← getElem?_commands hn hd, hcommands, hrank]
    obtain rfl := Option.some.inj hcd
    cases e with
    | completed => exact absurd rfl hcompleted
    | unbalancedBrackets => exact absurd rfl hbrackets
    | _ => exact ⟨hrank, c, hc, hm, hn⟩

end Terminal

/-- Two texts with the same commands, whatever comments they have between them: neither execution
ends, or both end alike, with the same terminal and the same tape, at places that correspond. -/
theorem execute_ignores_comments {t u : Text} (hcommands : commands t = commands u)
    (start : Terminal) :
    (Terminal.Diverges t start ∧ Terminal.Diverges u start) ∨
      ∃ e m n s, Terminal.Finishes t start e m s ∧ Terminal.Finishes u start e n s ∧
        m.pointer = n.pointer ∧ m.memory = n.memory ∧
        Terminal.SamePlace t u m.position n.position e := by
  rcases Terminal.diverges_or_finishes t start with ht | ⟨e, m, s, ht⟩
  · left
    refine ⟨ht, ?_⟩
    rcases Terminal.diverges_or_finishes u start with hu | ⟨e, n, s, hu⟩
    · exact hu
    · have hcommon := hu.renumber
      rw [← hcommands] at hcommon
      obtain ⟨e', m, s', ht'⟩ := Terminal.exists_finishes_of_commands hcommon
      exact absurd ht' ht.not_finishes
  · right
    have hcommon := ht.renumber
    rw [hcommands] at hcommon
    obtain ⟨e', n, s', hu⟩ := Terminal.exists_finishes_of_commands hcommon
    obtain ⟨rfl, hmn, rfl⟩ := hcommon.unique hu.renumber
    obtain ⟨hrank, hpointer, hmemory⟩ := Machine.mk.inj hmn
    exact ⟨e, m, n, s, ht, hu, hpointer, hmemory,
      Terminal.samePlace_of_finishes hcommands ht hu hrank⟩

/-- Comments in front of a loop and in it: both executions end at the same reading, at the eighth
character of one text and at the fifth of the other. -/
theorem execute_ignores_comments_before_read :
    let start := Terminal.initial ⟨false, false⟩ [] none none
    commands "x+[y-]z,".toList = commands "+[-],w".toList ∧
      ∃ m n s, Terminal.Finishes "x+[y-]z,".toList start .endOfInput m s ∧
        Terminal.Finishes "+[-],w".toList start .endOfInput n s ∧
        m.position = 7 ∧ n.position = 4 ∧ m.memory = n.memory := by
  intro start
  have hcommands : commands "x+[y-]z,".toList = commands "+[-],w".toList := by decide
  have ht : Terminal.Finishes "x+[y-]z,".toList start .endOfInput ⟨7, 0, #[0]⟩
      (Terminal.execute 9 (.ok "x+[y-]z,".toList) start).console := ⟨by decide, 9, by rfl⟩
  have hu : Terminal.Finishes "+[-],w".toList start .endOfInput ⟨4, 0, #[0]⟩
      (Terminal.execute 9 (.ok "+[-],w".toList) start).console := ⟨by decide, 9, by rfl⟩
  rcases execute_ignores_comments hcommands start with
    ⟨hdiverges, -⟩ | ⟨e, m, n, s, ht', hu', -, hmemory, -⟩
  · exact absurd ht hdiverges.not_finishes
  · obtain ⟨rfl, rfl, -⟩ := ht.unique ht'
    obtain ⟨-, rfl, -⟩ := hu.unique hu'
    exact ⟨hcommands, _, _, s, ht', hu', rfl, rfl, hmemory⟩

end TapeStudio
