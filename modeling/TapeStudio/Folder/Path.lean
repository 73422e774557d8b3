import TapeStudio.Text.Fields

/-! Names of files, and the places they stand for. -/
namespace TapeStudio

/-- The names from the working folder down to a place in it. A place above the working folder
starts with parent parts, and a place given from the root of the file system with a separator. -/
abbrev Path := List Text

namespace Path

def separator : Char := '/'

/-- The part that stays where it is. -/
def currentPart : Text := ['.']

/-- The part that leads one level up. -/
def parentPart : Text := ['.', '.']

/-- The parts of a name, without the empty ones that doubled separators leave. -/
def partsOf (name : Text) : List Text := (Text.fields separator name).filter (· ≠ [])

def toName (p : Path) : Text := Text.joinWith separator p

/-- A name with a separator at its end can only be the name of a folder. -/
def namesFolder (name : Text) : Bool := name.getLast? = some separator

/-- What stands before each separator of a name: the names of the folders it leads through, from
the top down. The part that is read is kept in reverse. -/
def leadingFrom (done : Text) : Text → List Text
  | [] => []
  | c :: rest =>
    if c = separator && done.head?.any (· ≠ separator) then
      done.reverse :: leadingFrom (c :: done) rest
    else leadingFrom (c :: done) rest

def leadingNames (name : Text) : List Text := leadingFrom [] name

def root : Path := [[separator]]

/-- The working folder, or a folder above it. -/
def isAncestor (p : Path) : Bool := p.all (· = parentPart)

/-- The folders that stand right under the root, whatever else is there. -/
def systemFolders : List String :=
  ["bin", "dev", "etc", "home", "lib", "opt", "proc", "root", "run", "sbin", "sys", "tmp", "usr",
    "var"]

/-- A place where there is always a folder. -/
def isFixed (p : Path) : Bool :=
  isAncestor p || p = root || systemFolders.any fun name => p = root ++ [name.toList]

/-- In the working folder, at any depth. -/
def isInside (p : Path) : Bool :=
  p.head?.all fun first => first ≠ parentPart && first ≠ [separator]

/-- One level up. Nothing is above the root. -/
def parent (p : Path) : Path :=
  if isAncestor p then parentPart :: p else if p = root then root else p.dropLast

/-- Where one part of a name leads from a folder. -/
def step (here : Path) (part : Text) : Path :=
  if part = currentPart then here
  else if part = parentPart then here.parent
  else here ++ [part]

/-- Where a name starts. -/
def start (name : Text) : Path := if name.head? = some separator then root else []

end Path

end TapeStudio
