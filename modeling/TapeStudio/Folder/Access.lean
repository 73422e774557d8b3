import TapeStudio.Folder.Basic
import TapeStudio.Folder.Fault

/-! Reading, writing, removing and making what a name stands for. -/
namespace TapeStudio

/-- Where a name leads: the folder in which its last part is looked up, and that part. -/
structure Route where
  folder : Path
  last : Text

def Route.place (r : Route) : Path := r.folder.step r.last

namespace Folder

def maxPart : Nat := 255

def maxName : Nat := 4095

def checkPart (part : Text) : Except FileCause Unit :=
  if maxPart < (Text.encode part).size then .error .tooLong else .ok ()

def checkFolder (f : Folder) (p : Path) : Except FileCause Unit :=
  match f.find? p with
  | none => .error .missing
  | some (.file _) => .error .notFolder
  | some .folder => .ok ()

/-- The folder that parts of a name lead to. Each of them must lead to a folder. -/
def enter (f : Folder) : Path → List Text → Except FileCause Path
  | here, [] => do
    f.checkFolder here
    pure here
  | here, part :: rest => do
    f.checkFolder here
    checkPart part
    f.enter (here.step part) rest

/-- The route of a name. Its last part need not lead to anything. -/
def route (f : Folder) (name : Text) : Except FileCause Route :=
  if name.contains '\x00' then .error .zeroByte
  else if maxName < (Text.encode name).size then .error .tooLong
  else if name.isEmpty then .error .missing
  else do
    let parts := Path.partsOf name
    pure ⟨← f.enter (Path.start name) parts.dropLast, parts.getLast?.getD Path.currentPart⟩

/-- What is at the end of a route, if there is anything. -/
def lookUp (f : Folder) (r : Route) : Except FileCause (Option Entry) := do
  checkPart r.last
  pure (f.find? r.place)

def readCause (f : Folder) (name : Text) : Except FileCause ByteArray := do
  match ← f.lookUp (← f.route name) with
  | none => .error .missing
  | some .folder => .error .isFolder
  | some (.file bytes) => if Path.namesFolder name then .error .notFolder else .ok bytes

/-- A name that can only be the name of a folder is refused whatever is there. -/
def writeCause (f : Folder) (name : Text) (bytes : ByteArray) : Except FileCause Folder := do
  let r ← f.route name
  if Path.namesFolder name then .error .isFolder
  else match ← f.lookUp r with
    | some .folder => .error .isFolder
    | none | some (.file _) =>
      if f.readOnly r.place then .error .readOnly else .ok (f.put r.place (.file bytes))

def removeCause (f : Folder) (name : Text) : Except FileCause Folder := do
  let r ← f.route name
  match ← f.lookUp r with
  | none => .error .missing
  | some .folder => .error .isFolder
  | some (.file _) => if Path.namesFolder name then .error .notFolder else .ok (f.erase r.place)

def makeFolderCause (f : Folder) (name : Text) : Except FileCause Folder := do
  let r ← f.route name
  match ← f.lookUp r with
  | some _ => .error .alreadyThere
  | none => .ok (f.put r.place .folder)

def readTextCause (f : Folder) (name : Text) : Except FileCause Text := do
  match Text.decode? (← f.readCause name) with
  | some t => .ok t
  | none => .error .undecodable

/-- The text of the file with this name. -/
def readText (f : Folder) (name : Text) : Except FileFault Text :=
  (f.readTextCause name).mapError (⟨name, ·⟩)

/-- Stores bytes under a name, over an older file of that name. -/
def write (f : Folder) (name : Text) (bytes : ByteArray) : Except FileFault Folder :=
  (f.writeCause name bytes).mapError (⟨name, ·⟩)

def writeText (f : Folder) (name t : Text) : Except FileFault Folder :=
  f.write name (Text.encode t)

/-- Takes a file away. -/
def remove (f : Folder) (name : Text) : Except FileFault Folder :=
  (f.removeCause name).mapError (⟨name, ·⟩)

def makeFolder (f : Folder) (name : Text) : Except FileFault Folder :=
  (f.makeFolderCause name).mapError (⟨name, ·⟩)

def hasFile (f : Folder) (name : Text) : Bool :=
  match f.readCause name with
  | .ok _ => true
  | .error _ => false

def hasFolder (f : Folder) (name : Text) : Bool :=
  match f.readCause name with
  | .error .isFolder => true
  | _ => false

def contains (f : Folder) (name : Text) : Bool := f.hasFile name || f.hasFolder name

end Folder

end TapeStudio
