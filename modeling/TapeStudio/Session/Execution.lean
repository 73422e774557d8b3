import TapeStudio.Appearance.Shortcut
import TapeStudio.Session.Files
import TapeStudio.Session.Windows

/-! Running the program of the editor, and the keys that can be pressed at any time. -/
namespace TapeStudio

/-- What a key sequence stands for. -/
inductive KeyAction where
  | run
  | settings
  | newFile
  | openFile
  | save
  | saveAs
  deriving DecidableEq, Repr

def runKeys : String := "<F5>"

def Shortcuts.action? (shortcuts : Shortcuts) (keys : Text) : Option KeyAction :=
  ([(runKeys, .run), (shortcuts.settingsKeys, .settings), (shortcuts.newKeys, .newFile),
    (shortcuts.openKeys, .openFile), (shortcuts.saveKeys, .save),
    (shortcuts.saveAsKeys, .saveAs)].find? fun (k, _) => k.toList = keys).map (·.2)

namespace Session

def shortcuts : Shortcuts := .control

/-- The boxes of a session as a console. `press` is what a key does during a wait. -/
def console (press : Text → Session → Session) : Console Session where
  switches := Session.switches
  setSwitches switches s := { s with switches := switches }
  write := printPiece
  readLine := awaitLine press (typeInEditor 0 · true)

/-- Executes the current file on the console. -/
def execute (press : Text → Session → Session) (fuel : Nat) (s : Session) : Session :=
  let outcome := Machine.execute (console press) fuel (s.folder.readText s.file.name) s
  let s := outcome.console
  { s with journal := { s.journal with endings := s.journal.endings ++ [outcome.ending] } }

end Session

namespace Command

section Saving

/-! Running and the keys, with the command by which they save. -/

variable (save : Command Unit)

/-- Saves and executes, unless a program is running. -/
def runWith (press : Text → Session → Session) (fuel : Nat) : Command Unit := do
  if !(← get).switches.running then
    save
    modify (·.clearInput)
    modify (Session.execute press fuel)

/-- What a key sequence does. A program started here runs for at most `fuel` steps; keys pressed
while it waits are handled with less fuel. -/
def performWith : Nat → KeyAction → Command Unit
  | _, .settings => modify (·.openSettings)
  | _, .newFile => newFileWith save
  | _, .openFile => openFileWith save
  | _, .save => save
  | _, .saveAs => saveAsWith save
  | 0, .run => runWith save (fun _ s => s) 0
  | fuel + 1, .run =>
    runWith save (fun keys s => match Session.shortcuts.action? keys with
      | some action => Session.guarded (performWith fuel action) s
      | none => s) fuel

def pressWith (fuel : Nat) (keys : Text) : Command Unit :=
  match Session.shortcuts.action? keys with
  | some action => performWith save fuel action
  | none => pure ()

end Saving

def run : (Text → Session → Session) → Nat → Command Unit := runWith save

def perform : Nat → KeyAction → Command Unit := performWith save

def press : Nat → Text → Command Unit := pressWith save

end Command

end TapeStudio
