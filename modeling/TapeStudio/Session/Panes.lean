import TapeStudio.Session.Basic

/-! The three boxes: the editor, the input box and the output box. -/
namespace TapeStudio

namespace Session

def addTags (s : Session) (tags : List Tag) : Session :=
  { s with journal := { s.journal with tags := s.journal.tags ++ tags } }

/-- Colours the whole text of the editor, if that can be done. -/
def highlight (s : Session) : Session :=
  if s.highlighter then s.addTags s.editor.allTags else s

def clearEditor (s : Session) : Session := { s with editor := s.editor.clear }

def clearInput (s : Session) : Session := { s with input := s.input.clear }

def clearOutput (s : Session) : Session :=
  { s with output := s.output.clear, outputLocked := true }

def insertInEditor (s : Session) (offset : Nat) (t : Text) : Session :=
  { s with editor := s.editor.insertAt offset t }.highlight

/-- Prints a piece at the end of the output box. An empty piece is not counted. -/
def printPiece (piece : List CodePoint) (s : Session) : Session :=
  let s := { s with output := s.output.append piece, outputLocked := true }
  if piece.isEmpty then s
  else
    let count := s.journal.piecesPrinted + 1
    let s := { s with journal := { s.journal with piecesPrinted := count } }
    if count = s.script.stopAfter then s.pressStop else s

/-- Prints texts on one line, a space between two of them. -/
def printLine (texts : List Text) (s : Session) : Session :=
  printPiece (CodePoint.ofText (Text.joinWith ' ' texts ++ ['\n'])) s

def appendToInput (s : Session) (t : Text) : Session := { s with input := s.input.append t }

/-- A line typed at the cursor of the input box, with the Return key after it. -/
def enterLine (s : Session) (line : Text) : Session :=
  { s with input := s.input.typeText (line ++ ['\n']), lineEntered := true }

/-- The number of the line that was entered. It is found from the first digit of the number of
the line with the cursor, and is the line above that. -/
def enteredLineNumber (box : TextBox Char) : Int :=
  match Nat.toDigits 10 box.cursorPlace.1 with
  | c :: _ => (c.toNat : Int) - '0'.toNat - 1
  | [] => -1

def enteredLine (s : Session) : Text := s.input.lineText (enteredLineNumber s.input)

/-- The user at the input box, until a line is entered or Stop is pressed. Stop is pressed when
nothing else is left to do. `press` and `type` are what keys and typing in the editor do. -/
def attend (press type : Text → Session → Session) : List Gesture → Session → Session
  | [], s => s.pressStop
  | gesture :: rest, s =>
    let s := { s with script := { s.script with gestures := rest } }
    match gesture with
    | .enterLine line => s.enterLine line
    | .stop => s.pressStop
    | .press keys => attend press type rest (press keys s)
    | .type text => attend press type rest (type text s)

/-- Waits for a line. Only while none was entered does the stop switch end the wait, and the
program with it. -/
def awaitLine (press type : Text → Session → Session) (s : Session) : Reading × Session :=
  let s := attend press type s.script.gestures { s with lineEntered := false }
  if s.lineEntered then (.line s.enteredLine, s)
  else (.interrupted, { s with switches := { s.switches with running := false } })

end Session

namespace Command

/-- The offset that an index of a box stands for. -/
def resolve {α : Type} [DecidableEq α] [LineFeed α] (box : TextBox α) (index : Text) :
    Command Nat :=
  match BoxIndex.parse? index with
  | some i => pure (box.offset i)
  | none => throw (.badIndex index)

/-- The offsets of a range; without an end it is one character long. -/
def resolveRange {α : Type} [DecidableEq α] [LineFeed α] (box : TextBox α) (start : Text)
    (stop? : Option Text) : Command (Nat × Nat) := do
  let a ← resolve box start
  match stop? with
  | some stop => pure (a, ← resolve box stop)
  | none => pure (a, a + 1)

def editorInsert (index t : Text) : Command Unit := do
  let offset ← resolve (← get).editor index
  modify (·.insertInEditor offset t)

def editorDelete (start : Text) (stop? : Option Text) : Command Unit := do
  let (a, b) ← resolveRange (← get).editor start stop?
  modify fun s => { s with editor := s.editor.deleteBetween a b }

def editorText (start : Text) (stop? : Option Text) : Command Text := do
  let (a, b) ← resolveRange (← get).editor start stop?
  pure ((← get).editor.slice a b)

/-- Moves the cursor of the editor to an index. -/
def moveCursor (index : Text) : Command Unit := do
  let offset ← resolve (← get).editor index
  modify fun s => { s with editor := s.editor.moveCursor offset }

/-- Colours one line of the editor, by default the one with the cursor. -/
def highlightLine (line? : Option Int) : Command Unit := do
  let s ← get
  if s.highlighter then set (s.addTags (s.editor.lineTags (line?.getD s.editor.cursorPlace.1)))
  else throw .noHighlighter

/-- Deletes from the output box. It is unlocked meanwhile, and stays so if an index is bad. -/
def outputDelete (start : Text) (stop? : Option Text) : Command Unit := do
  modify fun s => { s with outputLocked := false }
  let (a, b) ← resolveRange (← get).output start stop?
  modify fun s => { s with output := s.output.deleteBetween a b, outputLocked := true }

/-- Waits for a line and takes it as it stands. -/
def awaitLine (press type : Text → Session → Session) : Command Text := do
  match ← modifyGet (Session.awaitLine press type) with
  | .line line => pure line
  | .interrupted => throw .interrupted

/-- Waits for a line and takes what was typed on it. -/
def awaitInput (press type : Text → Session → Session) : Command Text := do
  match typedOn? (← awaitLine press type) with
  | some t => pure t
  | none => throw .endOfInput

end Command

end TapeStudio
