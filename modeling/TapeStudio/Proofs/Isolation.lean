import TapeStudio.Proofs.LeftRunning
import TapeStudio.Proofs.SameAsTerminal
import TapeStudio.Proofs.Settled

/-! A running program is not disturbed by what the user does while it waits. Only the lines that are
entered and Stop matter to it; keys, typing in the editor and replies to dialogs can at most empty
the output box. -/
namespace TapeStudio

/-- The gestures that end a wait. -/
def Gesture.isEntry : Gesture → Bool
  | .enterLine _ | .stop => true
  | .press _ | .type _ => false

/-- The line that the first of these entries enters, unless it is Stop. -/
def Gesture.nextLine? : List Gesture → Option Text
  | .enterLine line :: _ => some line
  | _ => none

/-- What passes between a program and its console. It is also noted when the output box was emptied
while the program waited. -/
inductive Exchange where
  | printed (piece : List CodePoint)
  | answered (reading : Reading)
  | cleared
  deriving DecidableEq

namespace Exchange

/-- The program has a part in it. -/
def byProgram : Exchange → Bool
  | .printed _ | .answered _ => true
  | .cleared => false

/-- What a box shows that held `content` before: the pieces printed since it was last cleared. -/
def shown (content : List CodePoint) : List Exchange → List CodePoint
  | [] => content
  | .printed piece :: rest => shown (content ++ piece) rest
  | .answered _ :: rest => shown content rest
  | .cleared :: rest => shown [] rest

theorem shown_append (content : List CodePoint) (before after : List Exchange) :
    shown content (before ++ after) = shown (shown content before) after := by
  induction before generalizing content with
  | nil => rfl
  | cons exchange rest ih => cases exchange <;> simp [shown, ih]

/-- A reading is the program's, an emptied box is not. -/
theorem filter_byProgram (log : List Exchange) (emptied : Bool) (reading : Reading) :
    (log ++ (if emptied then [cleared] else []) ++ [answered reading]).filter byProgram =
      log.filter byProgram ++ [answered reading] := by
  cases emptied <;> simp [byProgram]

end Exchange

/-- What keys, typing in the editor and dialogs leave alone while a program runs. They can empty the
output box, but not change it in another way. -/
structure Aloof (s₀ s : Session) : Prop where
  input : s.input = s₀.input
  lineEntered : s.lineEntered = s₀.lineEntered
  switches : s.switches = s₀.switches
  gestures : s.script.gestures = s₀.script.gestures
  stopAfter : s.script.stopAfter = s₀.script.stopAfter
  piecesPrinted : s.journal.piecesPrinted = s₀.journal.piecesPrinted
  endings : s.journal.endings = s₀.journal.endings
  output : s.output.content = s₀.output.content ∨ s.output.content = []

namespace Aloof

variable {s₀ s s' : Session}

theorem refl (s : Session) : Aloof s s := ⟨rfl, rfl, rfl, rfl, rfl, rfl, rfl, .inl rfl⟩

theorem trans (h : Aloof s₀ s) (h' : Aloof s s') : Aloof s₀ s' where
  input := h'.input.trans h.input
  lineEntered := h'.lineEntered.trans h.lineEntered
  switches := h'.switches.trans h.switches
  gestures := h'.gestures.trans h.gestures
  stopAfter := h'.stopAfter.trans h.stopAfter
  piecesPrinted := h'.piecesPrinted.trans h.piecesPrinted
  endings := h'.endings.trans h.endings
  output := by
    rcases h'.output with ho' | ho'
    · rw [ho']
      exact h.output
    · exact .inr ho'

theorem of_looksOnly (h : LooksOnly s s') : Aloof s s' where
  input := h.input
  lineEntered := h.lineEntered
  switches := h.switches
  gestures := by rw [h.script]
  stopAfter := by rw [h.script]
  piecesPrinted := h.piecesPrinted
  endings := h.endings
  output := .inl (by rw [h.output])

theorem of_filesOnly (h : FilesOnly s s')
    (houtput : s'.output.content = s.output.content ∨ s'.output.content = []) : Aloof s s' where
  input := h.input
  lineEntered := h.lineEntered
  switches := h.switches
  gestures := h.gestures
  stopAfter := h.stopAfter
  piecesPrinted := h.piecesPrinted
  endings := h.endings
  output := houtput

end Aloof

/-- The output box holds this, or nothing. -/
def Session.HoldsAtMost (content : List CodePoint) (s : Session) : Prop :=
  s.output.content = content ∨ s.output.content = []

namespace Command

open Session

variable {content : List CodePoint}

theorem holdsAtMost_saveNamed : Preserves (HoldsAtMost content) saveNamed := by
  apply Preserves.bind
  · exact (preserves_fileName _).bind fun _ => preserves_get_bind fun _ h =>
      (preserves_ofFile _).bind fun _ => preserves_set h
  · intro _
    exact preserves_modify fun _ h => h

/-- Only showing a file touches the output box, and it empties it. -/
theorem holdsAtMost_showFile : Preserves (HoldsAtMost content) showFile := by
  have hclear : Preserves (HoldsAtMost content) (modify (·.clearEditor)) :=
    preserves_modify fun _ h => h
  refine hclear.bind fun _ => (preserves_fileName _).bind fun name =>
    preserves_get_bind fun s h => ?_
  cases s.folder.readText name with
  | ok text => exact preserves_set (.inr (TextBox.content_clear _))
  | error fault =>
    dsimp only
    split
    · exact preserves_throw _
    · exact preserves_pure _

theorem holdsAtMost_askFile (dialog : FileDialog) :
    Preserves (HoldsAtMost content) (askFile dialog) :=
  preserves_askFile (fun _ _ h => h) fun _ _ h => h

theorem holdsAtMost_saveAs : Preserves (HoldsAtMost content) saveAs :=
  preserves_saveAs (holdsAtMost_askFile _) (fun _ _ h => h) holdsAtMost_saveNamed
    holdsAtMost_showFile

theorem holdsAtMost_save : Preserves (HoldsAtMost content) save :=
  preserves_save holdsAtMost_saveAs (fun _ h => h) holdsAtMost_saveNamed

theorem holdsAtMost_newFile : Preserves (HoldsAtMost content) newFile :=
  preserves_newFile holdsAtMost_save (holdsAtMost_askFile _) (fun _ _ h => h) (fun _ h => h)
    holdsAtMost_showFile

theorem holdsAtMost_openFile : Preserves (HoldsAtMost content) openFile :=
  meets_openFile holdsAtMost_save (holdsAtMost_askFile _) (fun _ _ h => h) holdsAtMost_showFile

theorem holdsAtMost_compare : Preserves (HoldsAtMost content) compare := by
  refine (preserves_fileName _).bind fun _ => preserves_get_bind fun s h =>
    (preserves_ofFile _).bind fun text => ?_
  split
  · exact preserves_set h
  · exact preserves_pure _

variable {s₀ : Session}

theorem aloof_of_filesOnly {c : Command Unit} (hfiles : ∀ s, Preserves (FilesOnly s) c)
    (houtput : ∀ content, Preserves (HoldsAtMost content) c) : Preserves (Aloof s₀) c := by
  refine .of_frame (R := fun s s' => FilesOnly s s' ∧ HoldsAtMost s.output.content s')
    (fun s => ⟨FilesOnly.refl s, .inl rfl⟩) (fun s => Meets.and (hfiles s) (houtput _)) ?_
  exact fun s s' h hframe => h.trans (.of_filesOnly hframe.1 hframe.2)

/-- While a program runs, no key disturbs it. In particular no second program is started. -/
theorem aloof_perform (h₀ : s₀.switches.running = true) (fuel : Nat) (action : KeyAction) :
    Preserves (Aloof s₀) (perform fuel action) := by
  cases action with
  | run =>
    intro s h
    rw [perform_run_of_running fuel (h.switches ▸ h₀)]
    exact h
  | settings =>
    rw [perform_settings]
    exact preserves_modify fun s h => h.trans (.of_looksOnly (LooksOnly.refl s).openSettings)
  | newFile =>
    rw [perform_newFile]
    exact aloof_of_filesOnly (fun _ => filesOnly_newFile) fun _ => holdsAtMost_newFile
  | openFile =>
    rw [perform_openFile]
    exact aloof_of_filesOnly (fun _ => filesOnly_openFile) fun _ => holdsAtMost_openFile
  | save =>
    rw [perform_save]
    exact aloof_of_filesOnly (fun _ => filesOnly_save) fun _ => holdsAtMost_save
  | saveAs =>
    rw [perform_saveAs]
    exact aloof_of_filesOnly (fun _ => filesOnly_saveAs) fun _ => holdsAtMost_saveAs

end Command

namespace Session

variable {s : Session}

theorem aloof_pressed (h : s.switches.running = true) (fuel : Nat) (keys : Text) :
    Aloof s (s.pressed fuel keys) := by
  refine pressed_of_preserves (fun n _ => Command.aloof_perform h n) ?_ keys (.refl s)
  intro r fault hr
  exact hr.trans (.of_looksOnly ((LooksOnly.refl r).log _ (by simp [Event.isIncidental])))

theorem aloof_typeInEditor (s : Session) (t : Text) : Aloof s (s.typeInEditor 0 t true) := by
  refine .of_filesOnly ((FilesOnly.refl s).typeInEditor 0 t true) ?_
  have hcompared : ∀ r : Session, HoldsAtMost r.output.content r.keyReleased := by
    intro r
    have hhighlight : ∀ q : Session, q.highlight.output = q.output := fun q =>
      (LooksOnly.refl q).highlight.output
    unfold keyReleased HoldsAtMost
    rw [hhighlight]
    split
    · exact guarded_of_preserves (I := HoldsAtMost r.output.content) Command.holdsAtMost_compare
        (fun _ _ h => h) (.inl rfl)
    · exact .inl rfl
  exact hcompared _

/-- How a wait goes: after some keys and some typing the next line is entered, if one is to be
entered next, or else Stop is pressed. -/
theorem attend_cases {press type : Text → Session → Session}
    (hpress : ∀ keys s, s.switches.running = true → Aloof s (press keys s))
    (htype : ∀ t s, s.switches.running = true → Aloof s (type t s)) {gestures : List Gesture}
    (hgestures : s.script.gestures = gestures) (hs : s.switches.running = true) :
    ∃ rest m, rest.filter Gesture.isEntry = (gestures.filter Gesture.isEntry).tail ∧
      Aloof { s with script := { s.script with gestures := rest } } m ∧
      attend press type gestures s = match Gesture.nextLine? (gestures.filter Gesture.isEntry) with
        | some line => m.enterLine line
        | none => m.pressStop := by
  induction gestures generalizing s with
  | nil => exact ⟨[], s, rfl, { Aloof.refl s with gestures := hgestures }, rfl⟩
  | cons gesture later ih =>
    -- a key or typing comes before the rest of the wait
    have hlater : ∀ r : Session, Aloof { s with script := { s.script with gestures := later } } r →
        ∃ rest m, rest.filter Gesture.isEntry = (later.filter Gesture.isEntry).tail ∧
          Aloof { s with script := { s.script with gestures := rest } } m ∧
          attend press type later r =
            match Gesture.nextLine? (later.filter Gesture.isEntry) with
            | some line => m.enterLine line
            | none => m.pressStop := by
      intro r hr
      obtain ⟨rest, m, hrest, hm, hattend⟩ := ih hr.gestures (hr.switches ▸ hs)
      refine ⟨rest, m, hrest, ?_, hattend⟩
      have hr' : Aloof { s with script := { s.script with gestures := rest } }
          { r with script := { r.script with gestures := rest } } := { hr with gestures := rfl }
      exact hr'.trans hm
    cases gesture with
    | enterLine line => exact ⟨later, _, rfl, .refl _, rfl⟩
    | stop => exact ⟨later, _, rfl, .refl _, rfl⟩
    | press keys => exact hlater _ (hpress keys _ hs)
    | type t => exact hlater _ (htype t _ hs)

/-- What printing a piece does. -/
theorem printPiece_eq (s : Session) (piece : List CodePoint) :
    s.printPiece piece =
      let count := s.journal.piecesPrinted + (if piece.isEmpty then 0 else 1)
      { s with
        output := s.output.append piece
        outputLocked := true
        journal := { s.journal with piecesPrinted := count }
        switches := { s.switches with
          stop := s.switches.stop || (!piece.isEmpty && count = s.script.stopAfter) } } := by
  unfold printPiece
  cases hpiece : piece.isEmpty with
  | true => simp
  | false =>
    dsimp only [Bool.false_eq_true, if_false, Bool.not_false]
    by_cases hcount : s.journal.piecesPrinted + 1 = s.script.stopAfter
    · simp [hcount, pressStop]
    · simp [hcount]

/-- The boxes of a session as a console, with a record of what passes between it and the
program. -/
def recorder (press : Text → Session → Session) : Console (Session × List Exchange) where
  switches x := x.1.switches
  setSwitches switches x := ((console press).setSwitches switches x.1, x.2)
  write piece x := ((console press).write piece x.1, x.2 ++ [.printed piece])
  readLine x :=
    let (reading, s) := (console press).readLine x.1
    let emptied := !x.1.output.content.isEmpty && s.output.content.isEmpty
    (reading, s, x.2 ++ (if emptied then [.cleared] else []) ++ [.answered reading])

/-- The record does not change what is recorded. -/
theorem mirrors_recorder (press : Text → Session → Session) :
    (recorder press).Mirrors (console press) (fun x s => x.1 = s) fun x s => x.1 = s where
  stop := by
    rintro x _ rfl
    rfl
  write := by
    rintro x _ piece rfl
    rfl
  read := by
    rintro x _ rfl
    refine ⟨rfl, ?_⟩
    split <;> rfl

/-- An execution of the current file with its record. -/
def recorded (press : Text → Session → Session) (fuel : Nat) (s : Session) :
    Machine.Outcome (Session × List Exchange) :=
  Machine.execute (recorder press) fuel (s.folder.readText s.file.name) (s, [])

/-- The session after the only execution of an action. -/
def withEnding (s : Session) (ending : Ending) : Session :=
  { s with journal := { s.journal with endings := [ending] } }

theorem execute_eq_recorded {press : Text → Session → Session} {fuel : Nat}
    (h : (s.recorded press fuel).console.1.journal.endings = []) :
    s.execute press fuel =
      (s.recorded press fuel).console.1.withEnding (s.recorded press fuel).ending := by
  obtain ⟨hending, -, hconsole⟩ := (mirrors_recorder press).execute (s := (s, [])) (t := s) rfl
    (fun _ _ h => h) (fun _ _ h => by rw [← h]; rfl) fuel (s.folder.readText s.file.name)
  simp only [recorded] at h ⊢
  rw [hconsole] at h ⊢
  simp only [execute, withEnding, hending, h, List.nil_append]

/-- Two recorded sessions that a program cannot tell apart. -/
structure InTune (x y : Session × List Exchange) : Prop where
  input : x.1.input = y.1.input
  switches : x.1.switches = y.1.switches
  entries : x.1.script.gestures.filter Gesture.isEntry = y.1.script.gestures.filter Gesture.isEntry
  stopAfter : x.1.script.stopAfter = y.1.script.stopAfter
  piecesPrinted : x.1.journal.piecesPrinted = y.1.journal.piecesPrinted
  exchanges : x.2.filter Exchange.byProgram = y.2.filter Exchange.byProgram

theorem InTune.write {x y : Session × List Exchange} (h : InTune x y)
    (press : Text → Session → Session) (piece : List CodePoint) :
    InTune ((recorder press).write piece x) ((recorder press).write piece y) := by
  have hx : ((recorder press).write piece x).1 = x.1.printPiece piece := rfl
  have hy : ((recorder press).write piece y).1 = y.1.printPiece piece := rfl
  constructor
  · simp only [hx, hy, printPiece_eq, h.input]
  · simp only [hx, hy, printPiece_eq, h.switches, h.piecesPrinted, h.stopAfter]
  · simp only [hx, hy, printPiece_eq, h.entries]
  · simp only [hx, hy, printPiece_eq, h.stopAfter]
  · simp only [hx, hy, printPiece_eq, h.piecesPrinted]
  · simp [recorder, h.exchanges]

/-- What comes of a wait: it depends on the next entry. -/
theorem awaitLine_cases {press type : Text → Session → Session}
    (hpress : ∀ keys s, s.switches.running = true → Aloof s (press keys s))
    (htype : ∀ t s, s.switches.running = true → Aloof s (type t s))
    (hs : s.switches.running = true) :
    ∃ rest m, rest.filter Gesture.isEntry = (s.script.gestures.filter Gesture.isEntry).tail ∧
      Aloof { s with lineEntered := false, script := { s.script with gestures := rest } } m ∧
      awaitLine press type s =
        match Gesture.nextLine? (s.script.gestures.filter Gesture.isEntry) with
        | some line => (.line (m.enterLine line).enteredLine, m.enterLine line)
        | none => (.interrupted, { m with switches := ⟨true, false⟩ }) := by
  obtain ⟨rest, m, hrest, hm, hattend⟩ :=
    attend_cases hpress htype (s := { s with lineEntered := false }) rfl hs
  refine ⟨rest, m, hrest, hm, ?_⟩
  have hentered : m.lineEntered = false := hm.lineEntered
  unfold awaitLine
  dsimp only at hattend ⊢
  rw [hattend]
  cases Gesture.nextLine? (s.script.gestures.filter Gesture.isEntry) with
  | some line => rfl
  | none => simp [pressStop, hentered]

/-- The output box holds what the record says, if it held `content` at first. -/
structure Shows (content : List CodePoint) (endings : List Ending) (x : Session × List Exchange) :
    Prop where
  output : x.1.output.content = Exchange.shown content x.2
  endings : x.1.journal.endings = endings

namespace Shows

variable {content : List CodePoint} {endings : List Ending} {x : Session × List Exchange}

theorem write (h : Shows content endings x) (press : Text → Session → Session)
    (piece : List CodePoint) : Shows content endings ((recorder press).write piece x) where
  output := by
    simp [recorder, console, printPiece_eq, TextBox.content_append, Exchange.shown_append,
      Exchange.shown, h.output]
  endings := by simp [recorder, console, printPiece_eq, h.endings]

/-- It was emptied during a wait just if it is empty and was not. -/
theorem answer (h : Shows content endings x) {s : Session}
    (hendings : s.journal.endings = x.1.journal.endings)
    (houtput : s.output.content = x.1.output.content ∨ s.output.content = [])
    (reading : Reading) :
    Shows content endings (s, x.2 ++
      (if !x.1.output.content.isEmpty && s.output.content.isEmpty then [.cleared] else []) ++
      [.answered reading]) where
  output := by
    simp only [Exchange.shown_append, ← h.output]
    rcases houtput with ho | ho
    · cases hempty : x.1.output.content.isEmpty <;> simp_all [Exchange.shown]
    · cases hempty : x.1.output.content.isEmpty <;> simp_all [Exchange.shown]
  endings := hendings.trans h.endings

end Shows

section Isolated

variable {press : Text → Session → Session}
  (hpress : ∀ keys s, s.switches.running = true → Aloof s (press keys s))

include hpress

/-- A program gets the same answers from two such sessions and does not come to tell them apart. -/
theorem mirrors_inTune :
    (recorder press).Mirrors (recorder press)
      (fun x y => x.1.switches.running = true ∧ InTune x y) InTune where
  stop h := by
    exact congrArg Switches.stop h.2.switches
  write := by
    intro x y piece h
    refine ⟨?_, h.2.write press piece⟩
    change (x.1.printPiece piece).switches.running = true
    rw [printPiece_eq, h.1]
  read := by
    rintro x y ⟨hx, h⟩
    have htype : ∀ t s, s.switches.running = true → Aloof s (typeInEditor 0 t true s) :=
      fun t s _ => aloof_typeInEditor s t
    obtain ⟨rest, m, hrest, hm, hread⟩ := awaitLine_cases hpress htype hx
    obtain ⟨rest', m', hrest', hm', hread'⟩ :=
      awaitLine_cases hpress htype (s := y.1) (h.switches ▸ hx)
    rw [← h.entries] at hread' hrest'
    have hinput : m.input = m'.input := by rw [hm.input, hm'.input, h.input]
    have hentries :
        m.script.gestures.filter Gesture.isEntry = m'.script.gestures.filter Gesture.isEntry := by
      rw [hm.gestures, hm'.gestures, hrest, hrest']
    have hstopAfter : m.script.stopAfter = m'.script.stopAfter := by
      rw [hm.stopAfter, hm'.stopAfter]
      exact h.stopAfter
    have hprinted : m.journal.piecesPrinted = m'.journal.piecesPrinted := by
      rw [hm.piecesPrinted, hm'.piecesPrinted, h.piecesPrinted]
    simp only [recorder, console, hread, hread']
    cases Gesture.nextLine? (x.1.script.gestures.filter Gesture.isEntry) with
    | some line =>
      have hline : (m.enterLine line).enteredLine = (m'.enterLine line).enteredLine := by
        simp only [enteredLine, enterLine, hinput]
      refine ⟨congrArg Reading.line hline, hm.switches ▸ hx, ?_⟩
      exact {
        input := congrArg (TextBox.typeText · _) hinput
        switches := hm.switches.trans (h.switches.trans hm'.switches.symm)
        entries := hentries
        stopAfter := hstopAfter
        piecesPrinted := hprinted
        exchanges := by simp only [Exchange.filter_byProgram, h.exchanges, hline] }
    | none =>
      refine ⟨rfl, ?_⟩
      exact {
        input := hinput
        switches := rfl
        entries := hentries
        stopAfter := hstopAfter
        piecesPrinted := hprinted
        exchanges := by simp only [Exchange.filter_byProgram, h.exchanges] }

/-- While a program runs on a recorded session, the output box shows what was printed since it was
last cleared, and no other program has run. -/
theorem maintains_shown (content : List CodePoint) (endings : List Ending) :
    (recorder press).Maintains
      (fun x => x.1.switches.running = true ∧ Shows content endings x) (Shows content endings) := by
  have hread : ∀ x : Session × List Exchange, x.1.switches.running = true →
      Shows content endings x → Shows content endings ((recorder press).readLine x).2 ∧
        (((recorder press).readLine x).1 ≠ .interrupted →
          ((recorder press).readLine x).2.1.switches.running = true) := by
    intro x hx h
    obtain ⟨rest, m, -, hm, hread⟩ :=
      awaitLine_cases hpress (fun t s _ => aloof_typeInEditor s t) hx
    simp only [recorder, console, hread]
    cases Gesture.nextLine? (x.1.script.gestures.filter Gesture.isEntry) with
    | some line =>
      exact ⟨h.answer (s := m.enterLine line) hm.endings hm.output _, fun _ => hm.switches ▸ hx⟩
    | none =>
      exact ⟨h.answer (s := { m with switches := ⟨true, false⟩ }) hm.endings hm.output _,
        fun hne => absurd rfl hne⟩
  refine ⟨?_, ?_, ?_⟩
  · rintro piece x ⟨hx, h⟩
    exact ⟨by rw [← hx]; simp only [recorder, console, printPiece_eq], h.write press piece⟩
  · rintro x x' line ⟨hx, h⟩ hline
    obtain ⟨hshows, hrunning⟩ := hread x hx h
    rw [hline] at hshows hrunning
    exact ⟨hrunning (by simp), hshows⟩
  · rintro x x' ⟨hx, h⟩ hinterrupted
    have hshows := (hread x hx h).1
    rw [hinterrupted] at hshows
    exact hshows

theorem shows_recorded (fuel : Nat) (r : Session) :
    Shows r.output.content r.journal.endings (r.recorded press fuel).console := by
  have hmaintains := maintains_shown hpress r.output.content r.journal.endings
  rcases hmaintains.execute (s := (r, [])) ⟨rfl, rfl, rfl⟩ fuel (r.folder.readText r.file.name) with
    ⟨-, x, ⟨-, hx⟩, hconsole⟩ | ⟨-, hleaves⟩
  · unfold recorded
    rw [hconsole]
    exact ⟨hx.output, hx.endings⟩
  · change Shows _ _ (Machine.execute _ _ _ _).console
    unfold Ending.Leaves at hleaves
    split at hleaves
    · exact hleaves
    · exact hleaves.2

/-- Sessions with the same program text that it cannot tell apart run it alike. -/
theorem alike_recorded {x y : Session} (fuel : Nat)
    (hsource : x.folder.readText x.file.name = y.folder.readText y.file.name)
    (h : InTune ((recorder press).setSwitches ⟨false, true⟩ (x, []))
      ((recorder press).setSwitches ⟨false, true⟩ (y, []))) :
    Machine.Outcome.Alike InTune (x.recorded press fuel) (y.recorded press fuel) := by
  unfold recorded
  rw [hsource]
  refine (mirrors_inTune hpress).execute ⟨rfl, h⟩ (fun _ _ h => h.2) (fun x y h => ?_) fuel _
  have hswitches : ((recorder press).setRunning false x).1.switches =
      ((recorder press).setRunning false y).1.switches :=
    congrArg (fun switches : Switches => { switches with running := false }) h.2.switches
  exact { h.2 with switches := hswitches }

end Isolated

end Session

/-- A program is started twice in a session, with scripts that may differ in the replies to dialogs
and in the keys and the typing between the entries; what is saved and then executed is the same
program text. Then both executions pass the same pieces and readings between program and console,
and end alike: with the same ending, machine and switches. In neither is another program executed,
and the output box shows what was printed since it was last cleared. -/
theorem running_program_isolated {s x y : Session} {a b : Script}
    (hrunning : s.switches.running = false)
    (hentries : a.gestures.filter Gesture.isEntry = b.gestures.filter Gesture.isEntry)
    (hstopAfter : a.stopAfter = b.stopAfter)
    (hx : Command.save (s.beginAction a) = .ok ⟨⟩ x)
    (hy : Command.save (s.beginAction b) = .ok ⟨⟩ y)
    (hsource : x.folder.readText x.file.name = y.folder.readText y.file.name) (fuel : Nat) :
    let first := x.clearInput.recorded (fun keys s => s.pressed fuel keys) (fuel - 1)
    let second := y.clearInput.recorded (fun keys s => s.pressed fuel keys) (fuel - 1)
    Command.perform fuel .run (s.beginAction a) = .ok ⟨⟩ (first.console.1.withEnding first.ending) ∧
      Command.perform fuel .run (s.beginAction b) =
        .ok ⟨⟩ (second.console.1.withEnding second.ending) ∧
      first.console.2.filter Exchange.byProgram = second.console.2.filter Exchange.byProgram ∧
      first.ending = second.ending ∧ first.machine? = second.machine? ∧
      first.console.1.switches = second.console.1.switches ∧
      first.console.1.output.content = Exchange.shown x.output.content first.console.2 ∧
      second.console.1.output.content = Exchange.shown y.output.content second.console.2 := by
  intro first second
  have hpress : ∀ keys r, r.switches.running = true → Aloof r (Session.pressed r fuel keys) :=
    fun keys r hr => Session.aloof_pressed hr fuel keys
  have hfilesx : FilesOnly (s.beginAction a) x :=
    Command.after_of_ok hx ▸ Command.filesOnly_save.after (.refl _)
  have hfilesy : FilesOnly (s.beginAction b) y :=
    Command.after_of_ok hy ▸ Command.filesOnly_save.after (.refl _)
  have hrunx := Command.perform_run_of_save (s := s.beginAction a) hrunning hx fuel
  have hruny := Command.perform_run_of_save (s := s.beginAction b) hrunning hy fuel
  have hshowsx := Session.shows_recorded hpress (fuel - 1) x.clearInput
  have hshowsy := Session.shows_recorded hpress (fuel - 1) y.clearInput
  have hnonex : first.console.1.journal.endings = [] := hshowsx.endings.trans hfilesx.endings
  have hnoney : second.console.1.journal.endings = [] := hshowsy.endings.trans hfilesy.endings
  rw [Session.execute_eq_recorded hnonex] at hrunx
  rw [Session.execute_eq_recorded hnoney] at hruny
  have halike : Machine.Outcome.Alike Session.InTune first second := by
    refine Session.alike_recorded hpress (fuel - 1) hsource ?_
    exact {
      input := congrArg TextBox.clear (hfilesx.input.trans hfilesy.input.symm)
      switches := rfl
      entries := by
        change x.script.gestures.filter _ = y.script.gestures.filter _
        rw [hfilesx.gestures, hfilesy.gestures]
        exact hentries
      stopAfter := hfilesx.stopAfter.trans (hstopAfter.trans hfilesy.stopAfter.symm)
      piecesPrinted := hfilesx.piecesPrinted.trans hfilesy.piecesPrinted.symm
      exchanges := rfl }
  exact ⟨hrunx, hruny, halike.console.exchanges, halike.ending, halike.machine,
    halike.console.switches, hshowsx.output, hshowsy.output⟩

/-- A program that echoes two characters. In the second script the Run key is pressed during both
waits, and another file is opened and changed before the second line is entered, so that the first
character is cleared away. -/
theorem running_program_isolated_echo :
    let program := [',', '.', ',', '.']
    let folder := Folder.ofFiles [(['a'], Text.encode program), (['b'], .empty)]
    let s := { Session.initial folder .silent with
      editor := TextBox.empty.typeText program
      file := .named ['a'] }
    let a := { Script.silent with gestures := [.enterLine ['h'], .enterLine ['i']] }
    let b := { Script.silent with
      replies := [.text ['b']]
      gestures := [.press "<F5>".toList, .enterLine ['h'], .press "<Control-o>".toList,
        .type ['+'], .press "<F5>".toList, .enterLine ['i']] }
    let x := Command.after Command.save (s.beginAction a)
    let y := Command.after Command.save (s.beginAction b)
    let first := x.clearInput.recorded (fun keys s => s.pressed 7 keys) 6
    let second := y.clearInput.recorded (fun keys s => s.pressed 7 keys) 6
    first.console.2.filter Exchange.byProgram = second.console.2.filter Exchange.byProgram ∧
      first.ending = .completed ∧ second.ending = .completed ∧ first.machine? = second.machine? ∧
      first.console.1.output.content = [.ofChar 'h', .ofChar 'i'] ∧
      second.console.1.output.content = [.ofChar 'i'] := by
  intro program folder s a b x y first second
  have hok : Command.succeeds Command.save (s.beginAction a) = true ∧
      Command.succeeds Command.save (s.beginAction b) = true := by
    decide +kernel
  have hfacts : first.ending = .completed ∧ first.console.1.output.content =
        [.ofChar 'h', .ofChar 'i'] ∧ second.console.1.output.content = [.ofChar 'i'] := by
    decide +kernel
  obtain ⟨-, -, hexchanges, hending, hmachine, -⟩ := running_program_isolated (s := s) (a := a)
    (b := b) rfl rfl rfl (Command.eq_ok_of_succeeds hok.1)
    (Command.eq_ok_of_succeeds hok.2) rfl 7
  exact ⟨hexchanges, hfacts.1, hending ▸ hfacts.1, hmachine, hfacts.2.1, hfacts.2.2⟩

end TapeStudio
