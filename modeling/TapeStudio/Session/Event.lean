import TapeStudio.Highlight.Tag
import TapeStudio.Session.Fault
import TapeStudio.Widget.Link

/-! What can be observed of a session: dialogs, requests to the world, windows. -/
namespace TapeStudio

inductive FileDialog where
  | create
  | saveAs
  | openFile
  deriving DecidableEq, Repr

namespace FileDialog

def title : FileDialog → String
  | .create => "Create..."
  | .saveAs => "Save as..."
  | .openFile => "Open..."

/-- A dialog for a file that need not exist yet. -/
def forSaving : FileDialog → Bool
  | .openFile => false
  | .create | .saveAs => true

end FileDialog

inductive Question where
  | killProgram
  | saveChanges
  deriving DecidableEq, Repr

namespace Question

def title : Question → String
  | .killProgram => "Program is running!"
  | .saveChanges => "File not saved"

def message : Question → String
  | .killProgram => "Your program is still running!\nDo you want to kill it?"
  | .saveChanges => "Do you want to save your file?"

/-- The reply when the user gives none: no, where nothing else can be chosen, else cancel. -/
def silence : Question → Value
  | .killProgram => .bool false
  | .saveChanges => .null

end Question

inductive Event where
  /-- The editor announced that its text may differ from the file. -/
  | compareRequested
  | callbackFailed (fault : Fault)
  | fileAsked (dialog : FileDialog) (reply : Value)
  | questionAsked (question : Question) (reply : Value)
  | themeSourced (path : String)
  | themeChosen (name : String)
  | connected (host : String) (service : Nat)
  | fetched (url : String)
  | progressed (percent : Nat)
  | link (event : LinkEvent)
  | browsed (url : String)
  /-- `first` is false if the window was already gone. -/
  | destroyed (first : Bool)

inductive ControlKind where
  | group
  | label
  | radio (value : Int)
  | checkbox
  | button (enabled : Bool)
  | link (link : Link)

structure Control where
  kind : ControlKind
  caption : String

structure Window where
  title : String
  controls : List Control

end TapeStudio
