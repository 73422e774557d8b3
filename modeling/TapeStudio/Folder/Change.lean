import TapeStudio.Folder.Access

/-! Changes of a folder in several steps. -/
namespace TapeStudio

/-- A change that fails keeps what it did up to there. -/
abbrev FolderChange := EStateM FileFault Folder Unit

namespace FolderChange

def ofStep (step : Folder → Except FileFault Folder) : FolderChange := fun f =>
  match step f with
  | .ok changed => .ok () changed
  | .error fault => .error fault f

/-- Makes those of the folders that are not there, in order. -/
def makeMissing : List Text → FolderChange
  | [] => pure ()
  | name :: rest => do
    if !(← get).contains name then ofStep (·.makeFolder name)
    makeMissing rest

/-- Makes a folder, unless it is there. -/
def ensureFolder (name : Text) : FolderChange := do
  if !(← get).hasFolder name then ofStep (·.makeFolder name)

/-- Makes a folder, after those it lies in. -/
def ensureFolders (name : Text) : FolderChange := do
  makeMissing (Path.leadingNames name)
  ensureFolder name

/-- Makes the folder that a name lies in. A name with a separator at its end lies in the folder
that it names without it. -/
def ensureAbove (name : Text) : FolderChange :=
  match (Path.leadingNames name).getLast? with
  | some above => ensureFolders above
  | none => pure ()

/-- Makes a folder, with all the folders above it. -/
def placeFolder (name : Text) : FolderChange := do
  ensureAbove name
  ensureFolders name

/-- Stores a file, with all the folders above it. -/
def place (name : Text) (bytes : ByteArray) : FolderChange := do
  ensureAbove name
  ofStep (·.write name bytes)

def remove (name : Text) : FolderChange := ofStep (·.remove name)

end FolderChange

end TapeStudio
