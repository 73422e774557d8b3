import TapeStudio.Machine.Terminal
import TapeStudio.Proofs.EnteredLines
import TapeStudio.Proofs.InOrder
import TapeStudio.Proofs.Lockstep
import TapeStudio.Proofs.StoredText

/-! A program that is started in a session prints, reads and ends as at a terminal that gives it the
lines which the user enters, as long as it reads no more than eight of them. -/
namespace TapeStudio

/-- A session in which a program was started from `r`, beside a terminal. Both have given the same
lines out of `lines`, and what the terminal printed was added to the output box. -/
structure InStep (lines : List Text) (r s : Session) (t : Terminal) : Prop where
  reads_le : t.reads ≤ 8
  supplied : t.reads ≤ lines.length
  unread : t.lines = lines.drop t.reads
  gestures : s.script.gestures = (lines.drop t.reads).map .enterLine
  input : s.input = .ofLines (lines.take t.reads)
  output : s.output.content = r.output.content ++ t.output
  locked : s.outputLocked = true
  folder : s.folder = r.folder
  endings : s.journal.endings = r.journal.endings
  switches : s.switches = t.switches
  noStop : t.switches.stop = false
  stopAfter : s.script.stopAfter = 0
  noStopOnRead : t.stopOnRead = none
  noStopOnWrite : t.stopOnWrite = none

/-- More than eight lines were taken from the user. -/
def Session.Overran (lines : List Text) (s : Session) : Prop :=
  ∃ k, 8 < k ∧ k ≤ lines.length ∧ s.script.gestures = (lines.drop k).map .enterLine

/-- More than eight lines were read, or more than there are. -/
def Terminal.Overran (lines : List Text) (t : Terminal) : Prop :=
  8 < t.reads ∨ lines.length < t.reads

theorem of_drop_eq_cons {α : Type} {l rest : List α} {k : Nat} {a : α}
    (h : l.drop k = a :: rest) : k < l.length ∧ l[k]? = some a ∧ l.drop (k + 1) = rest := by
  refine ⟨?_, ?_, ?_⟩
  · by_contra hle
    rw [List.drop_eq_nil_of_le (Nat.le_of_not_lt hle)] at h
    contradiction
  · rw [← List.head?_drop, h]
    rfl
  · rw [← List.drop_drop, h]
    rfl

namespace TextBox

theorem content_append {α : Type} (b : TextBox α) (t : List α) :
    (b.append t).content = b.content ++ t := by
  simp [append, insertAt]

end TextBox

namespace Session

variable {s : Session}

theorem script_printPiece (s : Session) (piece : List CodePoint) :
    (s.printPiece piece).script = s.script := by
  unfold printPiece
  dsimp only
  split
  · rfl
  · split <;> rfl

/-- Printing changes the output box and the count of pieces, unless Stop is to be pressed. -/
theorem printPiece_of_stopAfter (h : s.script.stopAfter = 0) (piece : List CodePoint) :
    ∃ count, s.printPiece piece = { s with
      output := s.output.append piece
      outputLocked := true
      journal := { s.journal with piecesPrinted := count } } := by
  unfold printPiece
  dsimp only
  split
  · exact ⟨_, rfl⟩
  · rw [if_neg (by omega)]
    exact ⟨_, rfl⟩

end Session

namespace InStep

variable {lines : List Text} {r s : Session} {t : Terminal}

theorem write (h : InStep lines r s t) (piece : List CodePoint) :
    InStep lines r (s.printPiece piece) (t.write piece) := by
  obtain ⟨count, hprint⟩ := Session.printPiece_of_stopAfter h.stopAfter piece
  have hswitches : (t.write piece).switches = t.switches := by
    simp [Terminal.write, Terminal.stopIf, h.noStopOnWrite]
  rw [hprint]
  exact { h with
    output := by
      rw [TextBox.content_append, h.output, List.append_assoc]
      simp [Terminal.write, Terminal.output]
    locked := rfl
    switches := h.switches.trans hswitches.symm
    noStop := hswitches ▸ h.noStop }

theorem setRunning (h : InStep lines r s t) (press : Text → Session → Session) (running : Bool) :
    InStep lines r ((Session.console press).setRunning running s)
      (Terminal.console.setRunning running t) :=
  { h with
    switches := congrArg (fun switches : Switches => { switches with running := running })
      h.switches }

/-- At one of the first eight reads both give the line that the user enters. -/
theorem read (h : InStep lines r s t) (hlines : ∀ line ∈ lines, '\n' ∉ line) {line : Text}
    {rest : List Text} (hnext : lines.drop t.reads = line :: rest) (hreads : t.reads < 8)
    (press type : Text → Session → Session) :
    Session.awaitLine press type s = (.line line, s.answered line (rest.map .enterLine)) ∧
      t.readLine.1 = .line line ∧
      InStep lines r (s.answered line (rest.map .enterLine)) t.readLine.2 := by
  obtain ⟨hlt, hline, hrest⟩ := of_drop_eq_cons hnext
  have htake : lines.take (t.reads + 1) = lines.take t.reads ++ [line] := by
    rw [List.take_add_one, hline]
    rfl
  have hgestures : s.script.gestures = .enterLine line :: rest.map .enterLine := by
    rw [h.gestures, hnext]
    rfl
  have hinput := Session.input_answered h.input line (rest.map .enterLine)
  have hentered : (s.answered line (rest.map .enterLine)).enteredLine = line := by
    apply Session.enteredLine_of_length_le _ hinput
    · rw [List.length_take]
      omega
    · intro line' hmem
      rw [← htake] at hmem
      exact hlines line' (List.mem_of_mem_take hmem)
  have hswitches : t.readLine.2.switches = t.switches := by
    simp [Terminal.readLine, Terminal.stopIf, h.noStopOnRead]
  refine ⟨?_, ?_, ?_⟩
  · rw [Session.awaitLine_of_enterLine press type hgestures, hentered]
  · simp [Terminal.readLine, h.unread, hnext]
  · exact { h with
      reads_le := hreads
      supplied := hlt
      unread := by simp [Terminal.readLine, h.unread]
      gestures := congrArg (·.map Gesture.enterLine) hrest.symm
      input := hinput.trans (congrArg TextBox.ofLines htake.symm)
      switches := h.switches.trans hswitches.symm
      noStop := hswitches ▸ h.noStop }

end InStep

/-- A user who only enters lines was asked for one more. -/
theorem Session.awaitLine_of_enterLines {s : Session} {lines : List Text}
    (h : s.script.gestures = lines.map .enterLine) (press type : Text → Session → Session) :
    (awaitLine press type s).1 = .interrupted ∨
      ∃ line rest, lines = line :: rest ∧
        (awaitLine press type s).2.script.gestures = rest.map .enterLine := by
  cases lines with
  | nil => simp [awaitLine, attend, h, pressStop]
  | cons line rest =>
    right
    refine ⟨line, rest, rfl, ?_⟩
    rw [awaitLine_of_enterLine press type h]
    rfl

theorem Session.readLine_console (press : Text → Session → Session) (s : Session) :
    (console press).readLine s = awaitLine press (typeInEditor 0 · true) s := rfl

theorem Terminal.readLine_console (t : Terminal) : Terminal.console.readLine t = t.readLine := rfl

theorem Session.maintains_overran (lines : List Text) (press : Text → Session → Session) :
    (console press).Maintains (Overran lines) fun _ => True where
  write piece s hs := by
    obtain ⟨k, hk, hle, hgestures⟩ := hs
    refine ⟨k, hk, hle, ?_⟩
    rw [← hgestures]
    exact congrArg Script.gestures (script_printPiece s piece)
  line := by
    rintro s s' line ⟨k, hk, hle, hgestures⟩ hread
    rw [readLine_console] at hread
    rcases awaitLine_of_enterLines hgestures press (typeInEditor 0 · true) with
      hnone | ⟨next, rest, hdrop, hlater⟩
    · rw [hread] at hnone
      contradiction
    · rw [hread] at hlater
      obtain ⟨hlt, _, hrest⟩ := of_drop_eq_cons hdrop
      exact ⟨k + 1, by omega, hlt, hlater.trans (by rw [hrest])⟩
  interrupted _ _ := trivial

theorem Terminal.maintains_overran (lines : List Text) :
    Terminal.console.Maintains (Overran lines) fun _ => True where
  write _ _ hs := hs
  line := by
    intro s s' line hs hread
    obtain rfl : s.readLine.2 = s' := congrArg Prod.snd hread
    rcases hs with hs | hs
    · exact .inl (Nat.lt_succ_of_lt hs)
    · exact .inr (Nat.lt_succ_of_lt hs)
  interrupted _ _ := trivial

/-- The boxes of a session and a terminal with the same lines: they part at the ninth reading, or
when the lines are used up. -/
theorem tracks_terminal {lines : List Text} (hlines : ∀ line ∈ lines, '\n' ∉ line) (r : Session)
    (press : Text → Session → Session) :
    (Session.console press).Tracks Terminal.console (InStep lines r) (Session.Overran lines)
      (Terminal.Overran lines) where
  stop h := congrArg Switches.stop h.switches
  write piece h := h.write piece
  read := by
    intro s t h
    rw [Session.readLine_console, Terminal.readLine_console]
    cases hnext : lines.drop t.reads with
    | nil =>
      have hused : lines.length ≤ t.reads := List.drop_eq_nil_iff.mp hnext
      have hgestures : s.script.gestures = ([] : List Text).map .enterLine := by
        rw [h.gestures, hnext]
      right
      constructor
      · left
        simpa using Session.awaitLine_of_enterLines hgestures press (Session.typeInEditor 0 · true)
      · exact .inr (.inr (Nat.lt_succ_of_le hused))
    | cons line rest =>
      by_cases hreads : t.reads < 8
      · left
        obtain ⟨hsession, hterminal, hstep⟩ := h.read hlines hnext hreads press
          (Session.typeInEditor 0 · true)
        rw [hsession, hterminal]
        exact ⟨rfl, hstep⟩
      · -- the ninth line is asked for
        have hreads8 : t.reads = 8 := Nat.le_antisymm h.reads_le (Nat.le_of_not_lt hreads)
        rw [hreads8] at hnext
        obtain ⟨hlt, _, hrest⟩ := of_drop_eq_cons hnext
        have hgestures : s.script.gestures = .enterLine line :: rest.map .enterLine := by
          rw [h.gestures, hreads8, hnext]
          rfl
        right
        constructor
        · right
          rw [Session.awaitLine_of_enterLine _ _ hgestures]
          exact ⟨9, by decide, hlt, congrArg (·.map Gesture.enterLine) hrest.symm⟩
        · right
          left
          change 8 < t.reads + 1
          omega
  first := Session.maintains_overran lines press
  second := Terminal.maintains_overran lines

theorem Terminal.ending_execute_ne_interrupted (fuel : Nat) (source : Except FileFault Text)
    (t : Terminal) : (Terminal.execute fuel source t).ending ≠ .interrupted := by
  have hmaintains : Terminal.console.Maintains (fun _ => True) fun _ => False :=
    ⟨fun _ _ _ => trivial, fun _ _ => trivial, fun _ hread => by
      simp [Terminal.console, Terminal.readLine] at hread⟩
  intro hinterrupted
  have hending : (Machine.execute Terminal.console fuel source t).ending = .interrupted :=
    hinterrupted
  rcases hmaintains.execute (s := t) trivial fuel source with ⟨hcompleted, _⟩ | ⟨_, hleaves⟩
  · rw [hending] at hcompleted
    contradiction
  · rw [hending] at hleaves
    exact hleaves

namespace Command

variable {s : Session} {name : Text}

/-- The command to run stores the text, empties the input box and executes what was stored. -/
theorem perform_run_of_save {r : Session} (hrunning : s.switches.running = false)
    (hsave : save s = .ok ⟨⟩ r) (fuel : Nat) :
    perform fuel .run s =
      .ok ⟨⟩ (r.clearInput.execute (fun keys s => s.pressed fuel keys) (fuel - 1)) := by
  rw [perform_run]
  change (if !s.switches.running then _ else _ : Command Unit) s = _
  rw [hrunning]
  exact bind_of_ok hsave

theorem perform_run_of_named {folder : Folder} (hrunning : s.switches.running = false)
    (hfile : s.file = .named name) (hname : name ≠ [])
    (hwrite : s.folder.writeText name s.editor.whole = .ok folder) (fuel : Nat) :
    perform fuel .run s = .ok ⟨⟩ (({ s with folder := folder }.markClean.clearInput).execute
      (fun keys s => s.pressed fuel keys) (fuel - 1)) :=
  perform_run_of_save hrunning (save_of_writeText hfile hname hwrite) fuel

end Command

/-- A program is started in a session with a current file that can be written, and while it runs
the user only enters lines. The text of the editor is stored first. Then the execution at the boxes
of the session takes no more than eight lines, and not more than the user enters, exactly if the
execution of the stored file at a terminal with these lines does so; and then both end alike, in the
same machine, and what the terminal printed was added to the output box, which is locked. The input
box holds the lines that were read. -/
theorem run_agrees_with_terminal {s : Session} {name : Text} {lines : List Text} {script : Script}
    (hs : s.Reached) (hrunning : s.switches.running = false) (hfile : s.file = .named name)
    (hname : name ≠ []) (hwritable : ∃ folder, s.folder.writeText name [] = .ok folder)
    (hlines : ∀ line ∈ lines, '\n' ∉ line) (hgestures : script.gestures = lines.map .enterLine)
    (hstopAfter : script.stopAfter = 0) (switches : Switches) (fuel : Nat) :
    ∃ folder, s.folder.writeText name (s.editor.content ++ ['\n']) = .ok folder ∧
      let stored := { s.beginAction script with
        folder := folder, dirty := false, title := Session.cleanTitle name, input := .empty }
      let press := fun keys s => s.pressed fuel keys
      let inside := Machine.execute (Session.console press) (fuel - 1) (folder.readText name) stored
      let bare := Terminal.execute (fuel - 1) (folder.readText name)
        (.initial switches lines none none)
      let ended := stored.execute press (fuel - 1)
      Command.perform fuel .run (s.beginAction script) = .ok ⟨⟩ ended ∧
      (inside.ending ≠ .interrupted ∧ lines.length ≤ inside.console.script.gestures.length + 8 ↔
        bare.console.reads ≤ 8 ∧ bare.console.reads ≤ lines.length) ∧
      (bare.console.reads ≤ 8 → bare.console.reads ≤ lines.length →
        inside.ending = bare.ending ∧ inside.machine? = bare.machine? ∧
        ended.journal.endings = [bare.ending] ∧ ended.folder = folder ∧
        ended.output.content = s.output.content ++ bare.console.output ∧
        ended.outputLocked = true ∧
        ended.input.content = TextBox.linesText (lines.take bare.console.reads) ∧
        ended.script.gestures = (lines.drop bare.console.reads).map .enterLine) := by
  obtain ⟨hlocked, hcursor⟩ := hs.inOrder
  obtain ⟨_, hwritable⟩ := hwritable
  obtain ⟨folder, hwrite⟩ := Folder.exists_writeText hwritable (s.editor.content ++ ['\n'])
  refine ⟨folder, hwrite, ?_⟩
  intro stored press inside bare ended
  have hperform : Command.perform fuel .run (s.beginAction script) = .ok ⟨⟩ ended := by
    have hstored :
        { s.beginAction script with folder := folder }.markClean.clearInput = stored := by
      simp only [Session.clearInput, Session.markClean, Session.beginAction, hfile, stored,
        TextBox.clear_eq hcursor, FileChoice.name]
    rw [Command.perform_run_of_named (s := s.beginAction script) hrunning hfile hname
      (by rw [TextBox.whole_eq]; exact hwrite) fuel, hstored]
  have hstart : InStep lines stored
      ((Session.console press).setSwitches ⟨false, true⟩ stored)
      (Terminal.console.setSwitches ⟨false, true⟩ (.initial switches lines none none)) :=
    { reads_le := Nat.zero_le _
      supplied := Nat.zero_le _
      unread := rfl
      gestures := hgestures
      input := rfl
      output := by simp [Terminal.initial, Terminal.output, Terminal.console, Session.console]
      locked := hlocked
      folder := rfl
      endings := rfl
      switches := rfl
      noStop := rfl
      stopAfter := hstopAfter
      noStopOnRead := rfl
      noStopOnWrite := rfl }
  have hended : ended = { inside.console with journal := { inside.console.journal with
      endings := inside.console.journal.endings ++ [inside.ending] } } := by
    simp only [ended, Session.execute, inside, stored, Session.beginAction, hfile, FileChoice.name]
  have hbare : bare.ending ≠ .interrupted := Terminal.ending_execute_ne_interrupted _ _ _
  refine ⟨hperform, ?_⟩
  rcases (tracks_terminal hlines stored press).execute hstart
    (fun _ _ h => h.setRunning press false) (fun _ h => h) (fun _ h => h) (fuel - 1)
    (folder.readText name) with halike | ⟨hX, hY⟩
  · have hconsole : InStep lines stored inside.console bare.console := halike.console
    have hending : inside.ending = bare.ending := halike.ending
    have hlength := congrArg List.length hconsole.gestures
    rw [List.length_map, List.length_drop] at hlength
    have hreads := hconsole.reads_le
    constructor
    · constructor
      · intro _
        exact ⟨hreads, hconsole.supplied⟩
      · intro _
        exact ⟨hending ▸ hbare, by omega⟩
    · intro _ _
      rw [hended]
      refine ⟨hending, halike.machine, ?_, hconsole.folder, hconsole.output, hconsole.locked, ?_,
        hconsole.gestures⟩
      · change inside.console.journal.endings ++ [inside.ending] = _
        rw [hconsole.endings, hending]
        rfl
      · change inside.console.input.content = _
        rw [hconsole.input]
        rfl
  · have hover : bare.console.Overran lines := hY.of_ne hbare
    have hexceeds : ¬ (bare.console.reads ≤ 8 ∧ bare.console.reads ≤ lines.length) := by
      rcases hover with hover | hover <;> omega
    constructor
    · constructor
      · rintro ⟨hne, hwithin⟩
        obtain ⟨k, hk, hle, hleft⟩ : inside.console.Overran lines := hX.of_ne hne
        rw [hleft, List.length_map, List.length_drop] at hwithin
        omega
      · intro hwithin
        exact absurd hwithin hexceeds
    · intro h8 hsupplied
      exact absurd ⟨h8, hsupplied⟩ hexceeds

/-- A program that reads a character and prints it, in a session that was just started. -/
theorem run_agrees_with_terminal_echo :
    let folder := Folder.sample ['a'] [(['a'], Text.encode [',', '.'])]
    let s := Session.startedIn folder
    let script := { Script.silent with gestures := [.enterLine ['x', 'y']] }
    let ended := Command.after (Command.perform 9 .run) (s.beginAction script)
    s.editor.content = [',', '.'] ∧ ended.output.content = [.ofChar 'x'] ∧
      ended.input.content = ['x', 'y', '\n'] ∧ ended.journal.endings = [.completed] := by
  intro folder s script ended
  have hfacts : Command.succeeds Command.start (.initial folder .silent) = true ∧
      s.file.hasName ['a'] = true ∧
      s.switches.running = false ∧ s.editor.content = [',', '.'] ∧ s.output.content = [] ∧
      (s.folder.writeText ['a'] []).isOk = true := by
    decide +kernel
  obtain ⟨hok, hname, hrunning, heditor, houtput, hwritable⟩ := hfacts
  have hfile : s.file = .named ['a'] := FileChoice.eq_named_of_hasName hname
  have hwritable' : ∃ g, s.folder.writeText ['a'] [] = .ok g :=
    Folder.exists_writeText_of_isOk hwritable
  have hlines : ∀ line ∈ [['x', 'y']], '\n' ∉ line := by decide
  have hgestures : script.gestures = [['x', 'y']].map .enterLine := rfl
  have hreached : s.Reached := Session.reached_startedIn hok
  -- the facts are all that is used of the session from here on
  clear_value s
  obtain ⟨folder', hwrite, hperform, -, hagree⟩ := run_agrees_with_terminal hreached hrunning hfile
    (by decide) hwritable' hlines hgestures rfl ⟨false, false⟩ 9
  have hbare :
      let bare := Terminal.execute (9 - 1) (folder'.readText ['a'])
        (.initial ⟨false, false⟩ [['x', 'y']] none none)
      bare.console.reads = 1 ∧ bare.ending = .completed ∧ bare.console.output = [.ofChar 'x'] := by
    rw [Folder.readText_of_writeText hwrite, heditor]
    decide
  obtain ⟨hreads, hending, hprinted⟩ := hbare
  obtain ⟨-, -, hendings, -, hout, -, hin, -⟩ :=
    hagree (by rw [hreads]; decide) (by rw [hreads]; decide)
  have hended := Command.after_of_ok hperform
  rw [houtput, hprinted] at hout
  rw [hreads] at hin
  rw [hending] at hendings
  rw [← hended] at hout hin hendings
  exact ⟨heditor, hout, hin, hendings⟩

end TapeStudio
