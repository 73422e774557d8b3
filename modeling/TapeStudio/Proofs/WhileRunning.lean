import TapeStudio.Proofs.FileEffects

/-! What is true of a console while a program runs on it. A program can be interrupted only while it
waits for a line; what is true then is stated apart. -/
namespace TapeStudio

variable {σ : Type}

/-- Whatever a program does, the console keeps `I`, until the program is interrupted and `J`
holds. -/
structure Console.Maintains (c : Console σ) (I J : σ → Prop) : Prop where
  write (piece : List CodePoint) (s : σ) : I s → I (c.write piece s)
  line {s s' : σ} {line : Text} : I s → c.readLine s = (.line line, s') → I s'
  interrupted {s s' : σ} : I s → c.readLine s = (.interrupted, s') → J s'

/-- What holds of a console after an ending, or after a step without one. -/
def Ending.Leaves (I J : σ → Prop) (ending? : Option Ending) (s : σ) : Prop :=
  if ending? = some .interrupted then J s else I s

theorem Ending.Leaves.of_ne {I J : σ → Prop} {e : Ending} {s : σ}
    (h : Ending.Leaves I J (some e) s) (he : e ≠ .interrupted) : I s := by
  simpa [Ending.Leaves, he] using h

def Machine.Turn.Leaves (I J : σ → Prop) (turn : Turn σ) : Prop :=
  Ending.Leaves I J turn.ending? turn.console

namespace Console.Maintains

open Machine

variable {c : Console σ} {I J : σ → Prop} {s : σ}

theorem conclude (hc : c.Maintains I J) (hs : I s) (e : Ending) : I (Machine.conclude c e s) := by
  unfold Machine.conclude
  split
  · exact hc.write _ _ (hc.write _ _ hs)
  · exact hs

theorem go (hs : I s) (m : Machine) : (Turn.go m s).Leaves I J := by
  simpa [Turn.Leaves, Ending.Leaves, Turn.go] using hs

theorem halt (hc : c.Maintains I J) (hs : I s) {e : Ending} (he : e ≠ .interrupted) (m : Machine) :
    (Turn.halt c e m s).Leaves I J := by
  simpa [Turn.Leaves, Ending.Leaves, Turn.halt, he] using hc.conclude hs e

theorem withCell (hc : c.Maintains I J) (hs : I s) (m : Machine) {act : Nat → Turn σ}
    (hact : ∀ value, (act value).Leaves I J) : (Machine.withCell c m s act).Leaves I J := by
  unfold Machine.withCell
  split
  · exact hact _
  · exact hc.halt hs (by simp) m

theorem takeJump (hc : c.Maintains I J) (hs : I s) (jumps : JumpTable) (m : Machine) :
    (Machine.takeJump c jumps m s).Leaves I J := by
  unfold Machine.takeJump
  split
  · exact go hs _
  · exact hc.halt hs (by simp) m

theorem readCell (hc : c.Maintains I J) (hs : I s) (m : Machine) :
    (Machine.readCell c m s).Leaves I J := by
  unfold Machine.readCell
  split
  next s' hread =>
    have hs' : J s' := hc.interrupted hs hread
    simpa [Turn.Leaves, Ending.Leaves, Turn.halt, Machine.conclude, Ending.notice?] using hs'
  next line s' hread =>
    have hs' : I s' := hc.line hs hread
    split
    · exact hc.halt hs' (by simp) m
    · exact hc.halt hs' (by simp) m
    · exact go hs' _

theorem perform (hc : c.Maintains I J) (hs : I s) (jumps : JumpTable) (i : Instruction)
    (m : Machine) : (Machine.perform c jumps i m s).Leaves I J := by
  cases i with
  | moveRight => exact go hs _
  | moveLeft =>
    unfold Machine.perform
    dsimp only
    split
    · exact hc.halt hs (by simp) _
    · exact go hs _
  | increment => exact hc.withCell hs m fun _ => go hs _
  | decrement => exact hc.withCell hs m fun _ => go hs _
  | print => exact hc.withCell hs m fun value => go (hc.write [⟨value⟩] s hs) m
  | read => exact hc.readCell hs m
  | loopStart =>
    refine hc.withCell hs m fun value => ?_
    split
    · exact hc.takeJump hs jumps m
    · exact go hs m
  | loopEnd =>
    refine hc.withCell hs m fun value => ?_
    split
    · exact go hs m
    · exact hc.takeJump hs jumps m

/-- Looking at the stop switch after an instruction changes nothing. -/
theorem look (c : Console σ) (turn : Turn σ) : turn.Leaves I J →
    Turn.Leaves I J (match turn with
      | ⟨some e, m, s⟩ => ⟨some e, m, s⟩
      | ⟨none, m, s⟩ =>
        if (c.switches s).stop then ⟨some .stopped, m, s⟩ else .go m.advance s) := by
  obtain ⟨ending?, m, s⟩ := turn
  intro h
  cases ending? with
  | some e => exact h
  | none =>
    have hs : I s := by simpa [Turn.Leaves, Ending.Leaves] using h
    dsimp only
    split
    · simpa [Turn.Leaves, Ending.Leaves] using hs
    · exact go hs _

theorem step (hc : c.Maintains I J) (hs : I s) (p : Program) (m : Machine) :
    (Machine.step c p m s).Leaves I J := by
  unfold Machine.step
  split
  · simpa [Turn.Leaves, Ending.Leaves] using hs
  · refine look c _ ?_
    split
    · exact hc.perform hs p.jumps _ m
    · exact go hs m

theorem run (hc : c.Maintains I J) (hs : I s) (p : Program) (fuel : Nat) (m : Machine) :
    Ending.Leaves I J (some (Machine.run c p fuel m s).ending)
      (Machine.run c p fuel m s).console := by
  induction fuel generalizing m s with
  | zero => simpa [Machine.run, Ending.Leaves] using hs
  | succ fuel ih =>
    have hstep := hc.step hs p m
    rw [Machine.run]
    split
    next e m' s' hturn =>
      rw [hturn] at hstep
      exact hstep
    next m' s' hturn =>
      rw [hturn] at hstep
      exact ih (by simpa [Turn.Leaves, Ending.Leaves] using hstep) m'

theorem runText (hc : c.Maintains I J) (hs : I s) (fuel : Nat) (t : Text) :
    Ending.Leaves I J (some (Machine.runText c fuel t s).ending)
      (Machine.runText c fuel t s).console := by
  unfold Machine.runText Machine.load
  cases Program.ofText? t with
  | some p => exact hc.run hs p fuel _
  | none => simpa [Ending.Leaves] using hc.conclude hs .unbalancedBrackets

/-- Only an execution that completes turns `running` off at its end. -/
theorem execute (hc : c.Maintains I J) (hs : I (c.setSwitches ⟨false, true⟩ s)) (fuel : Nat)
    (source : Except FileFault Text) :
    let outcome := Machine.execute c fuel source s
    (outcome.ending = .completed ∧ ∃ s', I s' ∧ outcome.console = c.setRunning false s') ∨
      (outcome.ending ≠ .completed ∧ Ending.Leaves I J (some outcome.ending) outcome.console) := by
  cases source with
  | error fault =>
    right
    simpa [Machine.execute, Ending.Leaves] using hs
  | ok t =>
    have hrun := hc.runText hs fuel t
    by_cases hcompleted : (Machine.runText c fuel t (c.setSwitches ⟨false, true⟩ s)).ending =
      .completed
    · left
      simp only [Machine.execute, if_pos hcompleted]
      rw [hcompleted] at hrun
      exact ⟨hcompleted, _, by simpa [Ending.Leaves] using hrun, rfl⟩
    · right
      simp only [Machine.execute, if_neg hcompleted]
      exact ⟨hcompleted, hrun⟩

end Console.Maintains

namespace Session

variable {I J : Session → Prop} {press type : Text → Session → Session}

theorem maintains_of_attend (hprint : ∀ s piece, I s → I (printPiece piece s))
    (hattend : ∀ s, I s → I (attend press (typeInEditor 0 · true) s.script.gestures
      { s with lineEntered := false }))
    (hJ : ∀ s, I s → J { s with switches := { s.switches with running := false } }) :
    (console press).Maintains I J := by
  refine ⟨fun piece s hs => hprint s piece hs, ?_, ?_⟩
  · intro s s' line hs hread
    have hs' := hattend s hs
    simp only [console, Session.awaitLine] at hread
    split at hread
    · rw [← (Prod.mk.inj hread).2]
      exact hs'
    · simp at hread
  · intro s s' hs hread
    have hs' := hattend s hs
    simp only [console, Session.awaitLine] at hread
    split at hread
    · simp at hread
    · rw [← (Prod.mk.inj hread).2]
      exact hJ _ hs'

/-- What printing and the user at the input box keep, apart from keys and typing. -/
structure KeptAtBoxes (I : Session → Prop) : Prop where
  print (s : Session) (piece : List CodePoint) : I s → I (s.printPiece piece)
  wait (s : Session) : I s → I { s with lineEntered := false }
  gestures (s : Session) (gestures : List Gesture) :
    I s → I { s with script := { s.script with gestures := gestures } }
  enter (s : Session) (line : Text) : I s → I (s.enterLine line)
  stop (s : Session) : I s → I s.pressStop

namespace KeptAtBoxes

theorem attend (h : KeptAtBoxes I) (hpress : ∀ keys s, I s → I (press keys s))
    (htype : ∀ t s, I s → I (type t s)) (gestures : List Gesture) {s : Session} (hs : I s) :
    I (Session.attend press type gestures s) := by
  induction gestures generalizing s with
  | nil => exact h.stop s hs
  | cons gesture rest ih =>
    have hrest := h.gestures s rest hs
    cases gesture with
    | enterLine line => exact h.enter _ line hrest
    | stop => exact h.stop _ hrest
    | press keys => exact ih (hpress keys _ hrest)
    | type text => exact ih (htype text _ hrest)

/-- The boxes of a session as a console keep what keys and typing keep. -/
theorem maintains (h : KeptAtBoxes I) (hpress : ∀ keys s, I s → I (press keys s))
    (htype : ∀ t s, I s → I (s.typeInEditor 0 t true))
    (hJ : ∀ s, I s → J { s with switches := { s.switches with running := false } }) :
    (console press).Maintains I J :=
  maintains_of_attend (fun s piece => h.print s piece)
    (fun s hs => h.attend hpress htype _ (h.wait s hs)) hJ

end KeptAtBoxes

/-- What does not depend on anything that a program or the user at the input box changes. -/
def Detached (I : Session → Prop) : Prop :=
  ∀ s input output outputLocked lineEntered stop gestures piecesPrinted, I s → I { s with
    input := input
    output := output
    outputLocked := outputLocked
    lineEntered := lineEntered
    switches := { s.switches with stop := stop }
    script := { s.script with gestures := gestures }
    journal := { s.journal with piecesPrinted := piecesPrinted } }

theorem Detached.keptAtBoxes (h : Detached I) : KeptAtBoxes I where
  print s piece hs := by
    unfold Session.printPiece
    dsimp only
    split
    · exact h s _ _ _ _ _ _ _ hs
    · split
      · exact h s _ _ _ _ _ _ _ hs
      · exact h s _ _ _ _ _ _ _ hs
  wait s hs := h s _ _ _ _ _ _ _ hs
  gestures s _ hs := h s _ _ _ _ _ _ _ hs
  enter s _ hs := h s _ _ _ _ _ _ _ hs
  stop s hs := h s _ _ _ _ _ _ _ hs

/-- What a key does while a program runs that was started with this fuel. -/
def pressed : Session → Nat → Text → Session
  | s, 0, _ => s
  | s, fuel + 1, keys =>
    match shortcuts.action? keys with
    | some action => guarded (Command.perform fuel action) s
    | none => s

theorem pressed_of_preserves {fuel : Nat}
    (h : ∀ n < fuel, ∀ action, Command.Preserves I (Command.perform n action))
    (hlog : ∀ s fault, I s → I (s.log [.callbackFailed fault])) (keys : Text) {s : Session}
    (hs : I s) : I (s.pressed fuel keys) := by
  cases fuel with
  | zero => exact hs
  | succ fuel =>
    rw [pressed]
    split
    · exact guarded_of_preserves (h fuel (Nat.lt_succ_self fuel) _) hlog hs
    · exact hs

end Session

namespace Command

/-! What each key does. -/

theorem perform_run (fuel : Nat) :
    perform fuel .run = run (fun keys s => s.pressed fuel keys) (fuel - 1) := by
  cases fuel <;> rfl

theorem perform_settings (fuel : Nat) : perform fuel .settings = modify (·.openSettings) := by
  cases fuel <;> rfl

theorem perform_newFile (fuel : Nat) : perform fuel .newFile = newFile := by cases fuel <;> rfl

theorem perform_openFile (fuel : Nat) : perform fuel .openFile = openFile := by cases fuel <;> rfl

theorem perform_save (fuel : Nat) : perform fuel .save = save := by cases fuel <;> rfl

theorem perform_saveAs (fuel : Nat) : perform fuel .saveAs = saveAs := by
  rw [← saveAsWith_save]
  cases fuel <;> rfl

end Command

end TapeStudio
