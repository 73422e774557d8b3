import TapeStudio.Proofs.Endings
import TapeStudio.Proofs.Lockstep

/-! A request to stop during a certain read or printed piece. Until then the execution is the one
without the request, and it ends in the instruction during which the request is met. -/
namespace TapeStudio

open Brackets Machine

/-- A console whose switches cannot be seen. -/
def Console.blind {σ : Type} (c : Console σ) : Console σ :=
  { c with switches := fun _ => ⟨false, false⟩ }

/-- An instruction by itself does not look at the switches. -/
theorem perform_blind {σ : Type} (c : Console σ) (jumps : JumpTable) (i : Instruction) (m : Machine)
    (s : σ) : perform c.blind jumps i m s = perform c jumps i m s := by
  cases i <;> rfl

namespace Terminal

/-- A requested number, counted from one, is among the first `count`. -/
def reached (request : Option Nat) (count : Nat) : Bool := request.any fun n => 1 ≤ n && n ≤ count

/-- The read or the piece during which a stop is requested has come. -/
def due (onRead onWrite : Option Nat) (s : Terminal) : Bool :=
  reached onRead s.reads || reached onWrite s.pieces.size

/-- The same terminal with requests to stop, and with the stop switch on or off. -/
def requesting (onRead onWrite : Option Nat) (stop : Bool) (s : Terminal) : Terminal :=
  { s with
    switches := { s.switches with stop := stop }
    stopOnRead := onRead
    stopOnWrite := onWrite }

/-- The stop switch is off, and nobody is going to throw it. -/
structure Calm (s : Terminal) : Prop where
  stop : s.switches.stop = false
  onRead : s.stopOnRead = none
  onWrite : s.stopOnWrite = none

section Request

variable {onRead onWrite : Option Nat} {s : Terminal} {m m' : Machine} {p : Program}

/-- What the terminal with the requests is while the one without them is `s`. -/
def asked (onRead onWrite : Option Nat) (s : Terminal) : Terminal :=
  s.requesting onRead onWrite (s.due onRead onWrite)

theorem asked_of_due {stop : Bool} (h : s.due onRead onWrite = stop) :
    s.asked onRead onWrite = s.requesting onRead onWrite stop := by rw [asked, h]

theorem reached_succ (request : Option Nat) (count : Nat) : reached request (count + 1) =
    (reached request count || decide (request = some (count + 1))) := by
  cases request with
  | none => rfl
  | some n =>
    rw [Bool.eq_iff_iff]
    simp only [reached, Option.any_some, Option.some.injEq, Bool.or_eq_true, Bool.and_eq_true,
      decide_eq_true_eq]
    omega

theorem due_write (piece : List CodePoint) : (s.write piece).due onRead onWrite =
    (s.due onRead onWrite || decide (onWrite = some (s.pieces.size + 1))) := by
  simp [due, write, reached_succ, Bool.or_assoc]

theorem due_readLine : s.readLine.2.due onRead onWrite =
    (s.due onRead onWrite || decide (onRead = some (s.reads + 1))) := by
  simp [due, readLine, reached_succ, Bool.or_right_comm]

theorem stopIf_eq (due : Bool) (x : Switches) : stopIf due x = ⟨x.stop || due, x.running⟩ := by
  cases due <;> simp [stopIf]

namespace Calm

theorem write (h : Calm s) (piece : List CodePoint) : Calm (s.write piece) where
  stop := by simp [Terminal.write, stopIf_eq, h.onWrite, h.stop]
  onRead := h.onRead
  onWrite := h.onWrite

theorem readLine (h : Calm s) : Calm s.readLine.2 where
  stop := by simp [Terminal.readLine, stopIf_eq, h.onRead, h.stop]
  onRead := h.onRead
  onWrite := h.onWrite

end Calm

/-- The request is met as the piece is printed. -/
theorem write_asked (piece : List CodePoint) :
    (s.asked onRead onWrite).write piece = (s.write piece).asked onRead onWrite := by
  rw [asked, asked, due_write]
  simp only [write, stopIf_eq]
  rfl

theorem readLine_asked : (s.asked onRead onWrite).readLine =
    (s.readLine.1, s.readLine.2.asked onRead onWrite) := by
  rw [asked, asked, due_readLine]
  simp only [readLine, stopIf_eq]
  rfl

/-- A calm terminal, and the same with requests. -/
def Beside (onRead onWrite : Option Nat) (s u : Terminal) : Prop :=
  Calm s ∧ u = s.asked onRead onWrite

theorem agrees_beside : console.blind.Agrees console.blind (Beside onRead onWrite) where
  stop _ := rfl
  write piece := by
    rintro ⟨hs, rfl⟩
    exact ⟨hs.write piece, write_asked piece⟩

/-- An instruction does the same with and without requests. -/
theorem alike_perform (hs : Calm s) (jumps : JumpTable) (i : Instruction) (m : Machine) :
    Turn.Alike (Beside onRead onWrite) (perform console jumps i m s)
      (perform console jumps i m (s.asked onRead onWrite)) := by
  rw [← perform_blind, ← perform_blind]
  by_cases hi : i = .read
  · subst hi
    have hread : (s.asked onRead onWrite).readLine = _ := readLine_asked
    exact agrees_beside.readCell m (congrArg Prod.fst hread).symm
      ⟨hs.readLine, congrArg Prod.snd hread⟩
  · exact agrees_beside.perform ⟨hs, rfl⟩ jumps hi m

/-- A step without requests and the same step with them. -/
inductive Abreast (onRead onWrite : Option Nat) : Turn Terminal → Turn Terminal → Prop where
  | ended {e : Ending} {m : Machine} {s : Terminal} :
      Abreast onRead onWrite ⟨some e, m, s⟩ ⟨some e, m, s.asked onRead onWrite⟩
  | gone {m : Machine} {s : Terminal} (h : s.due onRead onWrite = false) :
      Abreast onRead onWrite ⟨none, m, s⟩ ⟨none, m, s.asked onRead onWrite⟩
  /-- The request is met, and the position does not move on. -/
  | met {m : Machine} {s : Terminal} (h : s.due onRead onWrite = true) :
      Abreast onRead onWrite ⟨none, m.advance, s⟩ ⟨some .stopped, m, s.asked onRead onWrite⟩

theorem abreast_look {a b : Turn Terminal} (h : Turn.Alike (Beside onRead onWrite) a b) :
    Abreast onRead onWrite (look console a) (look console b) := by
  obtain ⟨ending?, m, s⟩ := a
  obtain ⟨ending?', m', u⟩ := b
  obtain ⟨hending, hmachine, hs, hu⟩ := h
  dsimp only at hending hmachine hs hu
  subst hending hmachine hu
  cases ending? with
  | some e => exact .ended
  | none =>
    have hfree : look console ⟨none, m, s⟩ = ⟨none, m.advance, s⟩ :=
      if_neg (by simp [console, hs.stop])
    rw [hfree]
    cases hdue : s.due onRead onWrite with
    | true =>
      have hbound : look console ⟨none, m, s.asked onRead onWrite⟩ =
          ⟨some .stopped, m, s.asked onRead onWrite⟩ := if_pos hdue
      rw [hbound]
      exact .met hdue
    | false =>
      have hbound : look console ⟨none, m, s.asked onRead onWrite⟩ =
          ⟨none, m.advance, s.asked onRead onWrite⟩ :=
        if_neg (by simp [console, asked, requesting, hdue])
      rw [hbound]
      exact .gone hdue

theorem abreast_step (onRead onWrite : Option Nat) (hs : Calm s) (p : Program) (m : Machine) :
    Abreast onRead onWrite (step console p m s) (step console p m (s.asked onRead onWrite)) := by
  unfold step
  cases p.code[m.position]? with
  | none => exact .ended
  | some character =>
    dsimp only
    cases Instruction.ofChar? character with
    | none =>
      exact abreast_look (a := .go m s) (b := .go m (s.asked onRead onWrite)) ⟨rfl, rfl, hs, rfl⟩
    | some i => exact abreast_look (alike_perform hs p.jumps i m)

theorem maintains_calm : console.Maintains Calm Calm := by
  refine ⟨fun piece s hs => hs.write piece, ?_, ?_⟩
  · intro s s' line hs hread
    obtain ⟨-, rfl⟩ := readLine_eq hread
    exact hs.readLine
  · intro s s' _ hread
    simpa using (readLine_eq hread).1

/-- What has come stays so. -/
theorem maintains_due : console.Maintains (fun s => s.due onRead onWrite = true)
    fun s => s.due onRead onWrite = true := by
  refine ⟨?_, ?_, ?_⟩
  · intro piece s hs
    change (s.write piece).due onRead onWrite = true
    rw [due_write, hs, Bool.true_or]
  · intro s s' line hs hread
    obtain ⟨-, rfl⟩ := readLine_eq hread
    rw [due_readLine, hs, Bool.true_or]
  · intro s s' _ hread
    simpa using (readLine_eq hread).1

end Request

section Run

variable {onRead onWrite : Option Nat} {s s' : Terminal} {m m' : Machine} {p : Program} {k : Nat}
  {t : Text}

theorem calm_of_passes (hs : Calm s) (h : Passes console p m s k m' s') : Calm s' := by
  refine h.invariant (I := fun _ s => Calm s) ?_ hs
  intro m m' s s' hs hgo
  have hstep := maintains_calm.step hs p m
  rw [hgo] at hstep
  simpa [Turn.Leaves, Ending.Leaves, Turn.go] using hstep

theorem not_due_of_step {e? : Option Ending} (h : step console p m s = ⟨e?, m', s'⟩)
    (hs' : s'.due onRead onWrite = false) : s.due onRead onWrite = false := by
  cases hs : s.due onRead onWrite with
  | false => rfl
  | true =>
    have hstep := maintains_due.step hs p m
    rw [h] at hstep
    simp [Turn.Leaves, Ending.Leaves, hs'] at hstep

theorem not_due_of_passes (h : Passes console p m s k m' s')
    (hs' : s'.due onRead onWrite = false) : s.due onRead onWrite = false := by
  induction h with
  | start => exact hs'
  | next _ hgo ih => exact ih (not_due_of_step hgo hs')

/-- As long as the request is not met, the run with it passes through the same states. -/
theorem passes_asked (hs : Calm s) (h : Passes console p m s k m' s')
    (hdue : s'.due onRead onWrite = false) :
    Passes console p m (s.asked onRead onWrite) k m' (s'.asked onRead onWrite) := by
  induction h with
  | start => exact .start
  | @next k m' m'' s' s'' before hgo ih =>
    have hbefore := not_due_of_step hgo hdue
    have habreast := abreast_step onRead onWrite (calm_of_passes hs before) p m'
    rw [hgo] at habreast
    generalize hbound : step console p m' (s'.asked onRead onWrite) = turn at habreast
    cases habreast with
    | gone _ => exact .next (ih hbefore) hbound
    | met htrue => simp [htrue] at hdue

/-- A request that is met along a run is met in one of its steps. -/
theorem exists_step_of_due (h : Passes console p m s k m' s')
    (hs : s.due onRead onWrite = false) (hdue : s'.due onRead onWrite = true) :
    ∃ j m₁ s₁, Passes console p m s j m₁ s₁ ∧ s₁.due onRead onWrite = false ∧
      (step console p m₁ s₁).console.due onRead onWrite = true := by
  induction h with
  | start => simp [hs] at hdue
  | @next k m' m'' s' s'' before hgo ih =>
    cases hbefore : s'.due onRead onWrite with
    | true => exact ih hbefore
    | false => exact ⟨k, m', s', before, hbefore, by rw [hgo]; exact hdue⟩

/-- Only a print or a reading can meet a request and let the run go on, and the position moves on
from it by one. -/
theorem position_of_due (hm : m.OnTape) (h : step console p m s = .go m' s')
    (hs : s.due onRead onWrite = false) (hdue : s'.due onRead onWrite = true) :
    m'.position = m.position + 1 := by
  obtain ⟨value, -, hstepped⟩ := hm.stepped h
  cases hstepped with
  | comment => simp [hs] at hdue
  | gone _ _ effect =>
    cases effect with
    | print | read => rfl
    | moveRight | moveLeft | increment | decrement | enter | skip | leave | again =>
      simp [hs] at hdue

/-- The run with the request ends in the step that meets it: with the same ending if the step has
one, and else as it looks at the stop switch. -/
theorem run_asked_of_met (hs : Calm s) (hm : m.OnTape) (hp : Program.ofText? t = some p)
    (h : Passes console p m s k m' s') (hbefore : s'.due onRead onWrite = false)
    {e? : Option Ending} {m'' : Machine} {s'' : Terminal}
    (hstep : step console p m' s' = ⟨e?, m'', s''⟩) (hdue : s''.due onRead onWrite = true) :
    match e? with
    | some e => ∀ n > k, run console p n m (s.asked onRead onWrite) =
        ⟨e, some m'', s''.requesting onRead onWrite true⟩
    | none => ∃ m₁, m₁.position = m'.position ∧ m'' = m₁.advance ∧
        ∀ n > k, run console p n m (s.asked onRead onWrite) =
          ⟨.stopped, some m₁, s''.requesting onRead onWrite true⟩ := by
  have hpasses := passes_asked hs h hbefore
  have habreast := abreast_step onRead onWrite (calm_of_passes hs h) p m'
  rw [hstep] at habreast
  generalize hbound : step console p m' (s'.asked onRead onWrite) = turn at habreast
  cases habreast with
  | ended =>
    intro n hn
    rw [← asked_of_due hdue]
    exact hpasses.run_eq_of_halt hn hbound
  | gone hfalse => simp [hdue] at hfalse
  | @met m₁ _ htrue =>
    have hposition := position_of_due (h.onTape hp hm) hstep hbefore hdue
    refine ⟨m₁, by simpa using hposition, rfl, fun n hn => ?_⟩
    rw [← asked_of_due hdue]
    exact hpasses.run_eq_of_halt hn hbound

/-- A run that never meets the request is not changed by it. -/
theorem run_asked_of_not_due (hs : Calm s) {n : Nat}
    (hdue : (run console p n m s).console.due onRead onWrite = false) :
    run console p n m (s.asked onRead onWrite) = { run console p n m s with
      console := (run console p n m s).console.requesting onRead onWrite false } := by
  rcases run_cases console p n m s with
    ⟨k, m', s', e, m'', s'', hkn, hpasses, hend, hrun⟩ | ⟨m', s', hpasses, hrun⟩
  · rw [hrun] at hdue ⊢
    dsimp only at hdue ⊢
    have hbefore := not_due_of_step hend hdue
    have habreast := abreast_step onRead onWrite (calm_of_passes hs hpasses) p m'
    rw [hend] at habreast
    generalize hbound : step console p m' (s'.asked onRead onWrite) = turn at habreast
    cases habreast with
    | ended =>
      rw [← asked_of_due hdue]
      exact (passes_asked hs hpasses hbefore).run_eq_of_halt hkn hbound
  · rw [hrun] at hdue ⊢
    dsimp only at hdue ⊢
    rw [← asked_of_due hdue]
    exact (passes_asked hs hpasses hdue).run_eq 0

end Run

section Execution

variable {onRead onWrite : Option Nat} {t : Text} {p : Program}

theorem calm_started (switches : Switches) (lines : List Text) :
    Calm (console.setSwitches ⟨false, true⟩ (initial switches lines none none)) := ⟨rfl, rfl, rfl⟩

theorem due_started (onRead onWrite : Option Nat) (switches : Switches) (lines : List Text) :
    (console.setSwitches ⟨false, true⟩ (initial switches lines none none)).due onRead onWrite =
      false := by
  have hreached (request : Option Nat) : reached request 0 = false := by
    cases request with
    | none => rfl
    | some n =>
      simp only [reached, Option.any_some, Bool.and_eq_false_imp, decide_eq_true_eq,
        decide_eq_false_iff_not]
      omega
  change (reached onRead 0 || reached onWrite 0) = false
  rw [hreached, hreached, Bool.or_false]

theorem setSwitches_initial (onRead onWrite : Option Nat) (switches : Switches)
    (lines : List Text) :
    console.setSwitches ⟨false, true⟩ (initial switches lines onRead onWrite) =
      (console.setSwitches ⟨false, true⟩ (initial switches lines none none)).asked
        onRead onWrite := by
  rw [asked, due_started]
  rfl

/-- The notice of an ending with and without the request. -/
theorem conclude_asked {s : Terminal} (hs : Calm s) (e : Ending) :
    conclude console e (s.asked onRead onWrite) = (conclude console e s).asked onRead onWrite :=
  (agrees_beside.conclude ⟨hs, rfl⟩ e).2

theorem due_settled (o : Outcome Terminal) :
    (o.settled console).console.due onRead onWrite = o.console.due onRead onWrite := by
  unfold Outcome.settled
  split <;> rfl

theorem settled_requesting (o : Outcome Terminal) (stop : Bool) :
    ({ o with console := o.console.requesting onRead onWrite stop } : Outcome Terminal).settled
        console = { o.settled console with
      console := (o.settled console).console.requesting onRead onWrite stop } := by
  unfold Outcome.settled
  split <;> rfl

/-- An execution during which the request is met has a step in which it is. -/
theorem exists_step_of_run_due {n : Nat} {m : Machine} {s : Terminal}
    (hs : s.due onRead onWrite = false)
    (hdue : (run console p n m s).console.due onRead onWrite = true) :
    ∃ j m₁ s₁, Passes console p m s j m₁ s₁ ∧ s₁.due onRead onWrite = false ∧
      (step console p m₁ s₁).console.due onRead onWrite = true := by
  rcases run_cases console p n m s with
    ⟨k, m', s', e, m'', s'', -, hpasses, hend, hrun⟩ | ⟨m', s', hpasses, hrun⟩
  · rw [hrun] at hdue
    cases hbefore : s'.due onRead onWrite with
    | true => exact exists_step_of_due hpasses hs hbefore
    | false => exact ⟨k, m', s', hpasses, hbefore, by rw [hend]; exact hdue⟩
  · rw [hrun] at hdue
    exact exists_step_of_due hpasses hs hdue

end Execution

/-- The execution on the terminal `free` meets the request in the instruction that it comes to after
`k` others. The execution on the terminal `bound`, which has the request, does the same up to there
and ends in that instruction. -/
structure MetIn (t : Text) (free bound : Terminal) (onRead onWrite : Option Nat) (p : Program)
    (k : Nat) (m : Machine) (s : Terminal) : Prop where
  visits : Visits console t free k m s
  before : s.due onRead onWrite = false
  during : (step console p m s).console.due onRead onWrite = true
  same : ∀ j ≤ k, ∀ m' s', Visits console t free j m' s' →
    Visits console t bound j m' (s'.requesting onRead onWrite false)
  /-- The instruction fails, with or without the request. -/
  failed : ∀ e, (step console p m s).ending? = some e → ∀ fuel > k,
    execute fuel (.ok t) free = ⟨e, some (step console p m s).machine,
      (step console p m s).console⟩ ∧
    execute fuel (.ok t) bound = ⟨e, some (step console p m s).machine,
      (step console p m s).console.requesting onRead onWrite true⟩
  /-- The instruction succeeds, and without the request the execution would go on. -/
  stopped : (step console p m s).ending? = none → ∃ m', m'.position = m.position ∧
    (step console p m s).machine = m'.advance ∧ ∀ fuel > k,
      execute fuel (.ok t) bound = ⟨.stopped, some m',
        (step console p m s).console.requesting onRead onWrite true⟩ ∧
      (execute fuel (.ok t) bound).console.switches = ⟨true, true⟩

theorem metIn_of_passes {t : Text} {p : Program} {onRead onWrite : Option Nat} {switches : Switches}
    {lines : List Text} {k : Nat} {m : Machine} {s : Terminal} (hp : Program.ofText? t = some p)
    (hpasses : Passes console p Machine.initial
      (console.setSwitches ⟨false, true⟩ (initial switches lines none none)) k m s)
    (hbefore : s.due onRead onWrite = false)
    (hduring : (step console p m s).console.due onRead onWrite = true) :
    MetIn t (initial switches lines none none) (initial switches lines onRead onWrite)
      onRead onWrite p k m s := by
  have hcalm := calm_started switches lines
  have hbegin := setSwitches_initial onRead onWrite switches lines
  have hfree (fuel : Nat) : execute fuel (.ok t) (initial switches lines none none) = _ :=
    execute_of_program hp fuel _
  have hbound (fuel : Nat) : execute fuel (.ok t) (initial switches lines onRead onWrite) = _ :=
    execute_of_program hp fuel _
  rw [hbegin] at hbound
  refine ⟨⟨p, hp, hpasses⟩, hbefore, hduring, ?_, ?_, ?_⟩
  · intro j hj m' s' hvisits
    have hearlier := hvisits.passes hp
    have hdue := not_due_of_passes (hearlier.between hpasses hj) hbefore
    have hasked := passes_asked hcalm hearlier hdue
    rw [← hbegin, asked_of_due hdue] at hasked
    exact ⟨p, hp, hasked⟩
  · intro e he fuel hfuel
    have hstep : step console p m s = ⟨some e, (step console p m s).machine,
        (step console p m s).console⟩ := by rw [← he]
    have hne : e ≠ .completed := by
      rcases step_cases hp (hpasses.onTape hp onTape_initial) (hpasses.stop_eq_false rfl) hstep with
        ⟨-, -, -, hsame⟩ | hcut
      · simp [hsame, hbefore] at hduring
      · exact hcut.ending_ne.1
    constructor
    · rw [hfree, hpasses.run_eq_of_halt hfuel hstep, Outcome.settled, if_neg hne]
    · rw [hbound, run_asked_of_met hcalm onTape_initial hp hpasses hbefore hstep hduring fuel hfuel,
        Outcome.settled, if_neg hne]
  · intro hnone
    have hstep : step console p m s = ⟨none, (step console p m s).machine,
        (step console p m s).console⟩ := by rw [← hnone]
    obtain ⟨m', hposition, hadvance, hrun⟩ :=
      run_asked_of_met hcalm onTape_initial hp hpasses hbefore hstep hduring
    refine ⟨m', hposition, hadvance, fun fuel hfuel => ?_⟩
    have hrunning := running_run
      (s := console.setSwitches ⟨false, true⟩ (initial switches lines onRead onWrite)) rfl p fuel
      .initial
    rw [hbegin, hrun fuel hfuel] at hrunning
    have hexecute : execute fuel (.ok t) (initial switches lines onRead onWrite) =
        ⟨.stopped, some m', (step console p m s).console.requesting onRead onWrite true⟩ := by
      rw [hbound, hrun fuel hfuel]
      rfl
    rw [hexecute]
    exact ⟨rfl, congrArg (Switches.mk true) hrunning⟩

end Terminal

/-- A request to stop during a read or a piece that the execution never comes to changes nothing.
Otherwise it is met in the check of the brackets, which fails all the same, or in an instruction:
the execution ends there, and up to there it is the one without the request. -/
theorem stop_request_cuts_run (t : Text) (switches : Switches) (lines : List Text)
    (onRead onWrite : Option Nat) :
    let free := Terminal.initial switches lines none none
    let bound := Terminal.initial switches lines onRead onWrite
    ((∀ fuel, (Terminal.execute fuel (.ok t) free).console.due onRead onWrite = false) →
      ∀ fuel, Terminal.execute fuel (.ok t) bound = { Terminal.execute fuel (.ok t) free with
        console := (Terminal.execute fuel (.ok t) free).console.requesting onRead onWrite false }) ∧
    ((∃ fuel, (Terminal.execute fuel (.ok t) free).console.due onRead onWrite = true) →
      (∀ fuel, (Terminal.execute fuel (.ok t) free).ending = .unbalancedBrackets ∧
        Terminal.execute fuel (.ok t) bound = { Terminal.execute fuel (.ok t) free with
          console :=
            (Terminal.execute fuel (.ok t) free).console.requesting onRead onWrite true }) ∨
      ∃ p k m s, Program.ofText? t = some p ∧
        Terminal.MetIn t free bound onRead onWrite p k m s) := by
  intro free bound
  have hcalm := Terminal.calm_started switches lines
  have hbegin : Terminal.console.setSwitches ⟨false, true⟩ bound = _ :=
    Terminal.setSwitches_initial onRead onWrite switches lines
  by_cases hover : Overclosed t
  · have hfree (fuel : Nat) : Terminal.execute fuel (.ok t) free = _ :=
      execute_of_overclosed hover fuel free
    have hbound (fuel : Nat) : Terminal.execute fuel (.ok t) bound = _ :=
      execute_of_overclosed hover fuel bound
    rw [hbegin, Terminal.conclude_asked hcalm] at hbound
    constructor
    · intro hnever fuel
      have hdue := hnever fuel
      rw [hfree] at hdue
      rw [hbound, hfree, Terminal.asked_of_due hdue]
    · rintro ⟨fuel, hdue⟩
      left
      intro fuel'
      rw [hfree] at hdue
      rw [hbound, hfree, Terminal.asked_of_due hdue]
      exact ⟨rfl, rfl⟩
  · obtain ⟨p, hp⟩ := Program.exists_ofText? hover
    have hfree (fuel : Nat) : Terminal.execute fuel (.ok t) free = _ :=
      execute_of_program hp fuel free
    have hbound (fuel : Nat) : Terminal.execute fuel (.ok t) bound = _ :=
      execute_of_program hp fuel bound
    rw [hbegin] at hbound
    constructor
    · intro hnever fuel
      have hdue := hnever fuel
      rw [hfree, Terminal.due_settled] at hdue
      rw [hbound, hfree, Terminal.run_asked_of_not_due hcalm hdue, Terminal.settled_requesting]
    · rintro ⟨fuel, hdue⟩
      rw [hfree, Terminal.due_settled] at hdue
      obtain ⟨k, m, s, hpasses, hbefore, hduring⟩ :=
        Terminal.exists_step_of_run_due (Terminal.due_started onRead onWrite switches lines) hdue
      exact .inr ⟨p, k, m, s, hp, Terminal.metIn_of_passes hp hpasses hbefore hduring⟩

/-- A stop during the last piece of a program that would have completed: it ends at the print, with
`running` left on. -/
theorem stop_request_cuts_run_at_last_print :
    let free := Terminal.initial ⟨false, false⟩ [] none none
    let bound := Terminal.initial ⟨false, false⟩ [] none (some 1)
    (Terminal.execute 3 (.ok "+.".toList) free).ending = .completed ∧
      ∃ p k m s, Program.ofText? "+.".toList = some p ∧
        Terminal.MetIn "+.".toList free bound none (some 1) p k m s ∧
        (Terminal.execute 3 (.ok "+.".toList) bound).ending = .stopped := by
  intro free bound
  have hmet : ∃ fuel, (Terminal.execute fuel (.ok "+.".toList) free).console.due none (some 1) =
      true := ⟨3, by decide⟩
  rcases (stop_request_cuts_run "+.".toList ⟨false, false⟩ [] none (some 1)).2 hmet with
    hbrackets | ⟨p, k, m, s, hp, hmetIn⟩
  · exact absurd (hbrackets 3).1 (by decide)
  · exact ⟨by decide, p, k, m, s, hp, hmetIn, by decide⟩

end TapeStudio
