import TapeStudio.Session.Execution
import TapeStudio.Session.Menu
import TapeStudio.Session.Start

/-! Everything that a user, or someone else in the same folder, can do in a session. -/
namespace TapeStudio

inductive Action where
  | menu (path : List Text)
  | press (keys : Text)
  | close
  | type (backspaces : Nat) (text : Text) (released : Bool)
  | moveCursor (index : Text)
  | click (caption : Text)
  | writeFile (name : Text) (bytes : ByteArray)
  | makeFolder (name : Text)
  | removeFile (name : Text)
  | setSwitches (stop? running? : Option Bool)
  | highlight

namespace Command

section Saving

/-! The actions, with the command by which they save. -/

variable (save : Command Unit)

def chooseWith (fuel : Nat) : MenuAction → Command Unit
  | .key action => performWith save fuel action
  | .close => closeWith save
  | .about => modify (·.openAbout)
  | .wiki => modify (·.openWiki)
  | .stop => modify (·.pressStop)

def actWith (fuel : Nat) : Action → Command Unit
  | .menu path =>
    match Session.menuBar.find? path with
    | some action => chooseWith save fuel action
    | none => pure ()
  | .press keys => pressWith save fuel keys
  | .close => closeWith save
  | .type backspaces text released => modify (·.typeInEditor backspaces text released)
  | .moveCursor index => moveCursor index
  | .click caption => click caption
  | .writeFile name bytes => onFolder (.place name bytes)
  | .makeFolder name => onFolder (.placeFolder name)
  | .removeFile name => onFolder (.remove name)
  | .setSwitches stop? running? => modify fun s =>
    { s with switches := ⟨stop?.getD s.switches.stop, running?.getD s.switches.running⟩ }
  | .highlight => modify (·.highlight)

end Saving

def choose : Nat → MenuAction → Command Unit := chooseWith save

def act : Nat → Action → Command Unit := actWith save

end Command

end TapeStudio
