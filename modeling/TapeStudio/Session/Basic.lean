import TapeStudio.Appearance.Palette
import TapeStudio.Folder.Archive
import TapeStudio.Machine.Run
import TapeStudio.Session.Event
import TapeStudio.Session.Toolkit
import TapeStudio.Settings.Document

/-! The state of an editing session, and commands on it. A command that fails keeps what it did
up to there. -/
namespace TapeStudio

/-- What a user does at the input box while a program waits for a line. -/
inductive Gesture where
  | enterLine (line : Text)
  | stop
  | press (keys : Text)
  | type (text : Text)
  deriving DecidableEq, Repr

/-- How the world answers during one action: the replies to dialogs, the gestures at the input
box, whether the network is there, and the archive that can be fetched. Stop is pressed after
`stopAfter` pieces of output, unless that is zero. -/
structure Script where
  replies : List Value
  gestures : List Gesture
  online : Bool
  archive? : Option Archive
  stopAfter : Nat

def Script.silent : Script := ⟨[], [], false, none, 0⟩

/-- A file dialog that was answered, with the folder as it was then. -/
structure FileRequest where
  dialog : FileDialog
  reply : Value
  folder : Folder

/-- What happened during one action. -/
structure Journal where
  events : List Event
  requests : List FileRequest
  tags : List Tag
  endings : List Ending
  windows : List Window
  piecesPrinted : Nat

def Journal.empty : Journal := ⟨[], [], [], [], [], 0⟩

/-- The file that was chosen for the text of the editor. A reply that is no name can be chosen
too, but not opened. -/
inductive FileChoice where
  | named (name : Text)
  | unnamed (reply : Value)

namespace FileChoice

def noFile : FileChoice := .named []

/-- A reply that counts as a no chooses nothing. -/
def ofReply? (reply : Value) : Option FileChoice :=
  if reply.isYes then
    match reply with
    | .text name => some (.named name)
    | _ => some (.unnamed reply)
  else none

def isNoFile : FileChoice → Bool
  | .named name => name.isEmpty
  | .unnamed _ => false

def name : FileChoice → Text
  | .named name => name
  | .unnamed _ => []

end FileChoice

structure Session where
  editor : TextBox Char
  input : TextBox Char
  output : TextBox CodePoint
  /-- The output box is unlocked only while something is printed in it or deleted from it. -/
  outputLocked : Bool
  /-- A line was entered since the program last began to wait. -/
  lineEntered : Bool
  dirty : Bool
  switches : Switches
  title : Text
  file : FileChoice
  darkMode : Int
  azure : Bool
  settings : Document
  folder : Folder
  appearance : Mode
  theme : String
  themes : List String
  /-- All controls made so far, newest first. -/
  controls : List Control
  /-- Programs can be coloured. -/
  highlighter : Bool
  toolkit : Toolkit
  /-- The editor's announcements are answered by a comparison with the file. -/
  comparing : Bool
  windowOpen : Bool
  script : Script
  journal : Journal

/-- A command either gives a value or fails, and changes the session in both cases. -/
abbrev Command := EStateM Fault Session

namespace Session

def applicationName : String := "Brainfuck"
def geometry : String := "800x500"

/-- A session before anything was read: empty boxes in a folder. -/
def initial (folder : Folder) (script : Script) : Session where
  editor := .empty
  input := .empty
  output := .empty
  outputLocked := true
  lineEntered := false
  dirty := false
  switches := ⟨false, false⟩
  title := "Python Brainfuck IDE".toList
  file := .noFile
  darkMode := 0
  azure := false
  settings := .empty
  folder := folder
  appearance := .light
  theme := "default"
  themes := ["default"]
  controls := []
  highlighter := true
  toolkit := .plain
  comparing := false
  windowOpen := true
  script := script
  journal := .empty

/-- The session at the beginning of an action, with a fresh journal. -/
def beginAction (s : Session) (script : Script) : Session :=
  { s with script := script, journal := .empty }

def log (s : Session) (events : List Event) : Session :=
  { s with journal := { s.journal with events := s.journal.events ++ events } }

/-- Notes a file dialog with its reply. -/
def logRequest (s : Session) (dialog : FileDialog) (reply : Value) : Session :=
  { s with journal := { s.journal with
      events := s.journal.events ++ [.fileAsked dialog reply]
      requests := s.journal.requests ++ [⟨dialog, reply, s.folder⟩] } }

def pressStop (s : Session) : Session :=
  { s with switches := { s.switches with stop := true } }

/-- The next reply of the script, or `silence` when there is none left. -/
def takeReply (s : Session) (silence : Value) : Value × Session :=
  match s.script.replies with
  | [] => (silence, s)
  | reply :: rest => (reply, { s with script := { s.script with replies := rest } })

/-- Runs a command whose failure is only noted. -/
def guarded (command : Command Unit) (s : Session) : Session :=
  match command s with
  | .ok _ s => s
  | .error fault s => s.log [.callbackFailed fault]

end Session

namespace Command

def log (event : Event) : Command Unit := modify (·.log [event])

def ofFile {α : Type} : Except FileFault α → Command α
  | .ok a => pure a
  | .error fault => throw (.file fault)

/-- Changes the working folder; a change that fails part of the way leaves it as it is then. -/
def onFolder (change : FolderChange) : Command Unit := fun s =>
  match change s.folder with
  | .ok _ folder => .ok () { s with folder := folder }
  | .error fault folder => .error (.file fault) { s with folder := folder }

/-- The name of the current file. -/
def fileName : Command Text := do
  match (← get).file with
  | .named name => pure name
  | .unnamed reply => throw (.noName (.ofReply reply))

/-- The file chosen in a dialog, if any. -/
def askFile (dialog : FileDialog) : Command (Option FileChoice) := do
  let reply ← modifyGet fun s => s.takeReply (.text [])
  modify (·.logRequest dialog reply)
  pure (FileChoice.ofReply? reply)

def ask (question : Question) : Command Value := do
  let reply ← modifyGet fun s => s.takeReply question.silence
  log (.questionAsked question reply)
  pure reply

end Command

end TapeStudio
