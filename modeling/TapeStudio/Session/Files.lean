import TapeStudio.Session.Panes

/-! Saving, opening and comparing the file of the editor. -/
namespace TapeStudio

namespace Session

def cleanTitle (file : Text) : Text := "Brainfuck IDE - ".toList ++ file

def dirtyTitle (file : Text) : Text := cleanTitle file ++ [' ', '*']

def markClean (s : Session) : Session :=
  { s with dirty := false, title := cleanTitle s.file.name }

def markDirty (s : Session) : Session :=
  { s with dirty := true, title := dirtyTitle s.file.name }

end Session

namespace Command

/-- Stores the text of the editor, with a newline at its end, in the current file. -/
def store : Command Unit := do
  let name ← fileName
  let s ← get
  let folder ← ofFile (s.folder.writeText name s.editor.whole)
  set { s with folder := folder }

/-- Saves in the current file, which was chosen before. -/
def saveNamed : Command Unit := do
  store
  modify (·.markClean)

/-- Puts the current file into the editor, without the newlines at its end. The editor is emptied
first; it stays empty if there is no such file. -/
def showFile : Command Unit := do
  modify (·.clearEditor)
  let name ← fileName
  let s ← get
  match s.folder.readText name with
  | .ok content =>
    let t := Text.dropTrailingNewlines content
    let s := if t.isEmpty then s else s.insertInEditor (s.editor.offset (.column 1 0)) t
    set { s.clearOutput with title := Session.cleanTitle name }
  | .error fault => if fault.cause ≠ .missing then throw (.file fault)

/-- The user chooses a file, which becomes the current one, and something is done with it. Nothing
happens if none is chosen. -/
def choosing (dialog : FileDialog) (next : Command Unit) : Command Unit := do
  match ← askFile dialog with
  | some file =>
    modify ({ · with file := file })
    next
  | none => pure ()

section Saving

/-! The commands that save, each with the command by which it does so. -/

variable (save : Command Unit)

def saveAsWith : Command Unit := choosing .saveAs do
  save
  showFile

def newFileWith : Command Unit := do
  save
  choosing .create do
    modify (·.clearEditor)
    save
    showFile

def openFileWith : Command Unit := do
  save
  choosing .openFile showFile

end Saving

/-- Saves in a file that the user chooses. -/
def saveAs : Command Unit := saveAsWith saveNamed

/-- Saves in the current file, or asks for one if there is none. The text counts as saved
afterwards in both cases. -/
def save : Command Unit := do
  if (← get).file.isNoFile then
    saveAs
    modify (·.markClean)
  else saveNamed

def newFile : Command Unit := newFileWith save

def openFile : Command Unit := openFileWith save

/-- The text counts as unsaved if the file differs from it. It is not the other way round: a
text that has become equal again still counts as unsaved. -/
def compare : Command Unit := do
  let name ← fileName
  let s ← get
  let content ← ofFile (s.folder.readText name)
  if content ≠ s.editor.whole then set s.markDirty

end Command

namespace Session

/-- A key was released in the editor: the text may have changed. -/
def keyReleased (s : Session) : Session :=
  let s := s.log [.compareRequested]
  (if s.comparing then guarded Command.compare s else s).highlight

/-- Typing in the editor: some characters before the cursor are removed, then a text is put in. -/
def typeInEditor (backspaces : Nat) (t : Text) (released : Bool) (s : Session) : Session :=
  let s := { s with editor := (s.editor.backspace backspaces).typeText t }
  if released then s.keyReleased else s

end Session

end TapeStudio
