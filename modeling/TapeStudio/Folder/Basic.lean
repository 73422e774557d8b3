import TapeStudio.Folder.Path

/-! The working folder: files with their bytes, and folders inside it. -/
namespace TapeStudio

inductive Entry where
  | file (bytes : ByteArray)
  | folder

structure Folder where
  entries : List (Path × Entry)
  /-- The places where no file can be written, whether or not one is there. -/
  readOnly : Path → Bool := fun _ => false

namespace Folder

def empty : Folder := { entries := [] }

/-- What stands at a place. The working folder itself is always there. -/
def find? (f : Folder) (p : Path) : Option Entry :=
  if p.isFixed then some .folder else f.entries.lookup p

def put (f : Folder) (p : Path) (e : Entry) : Folder :=
  { f with entries := (p, e) :: f.entries.filter (·.1 ≠ p) }

private theorem lookup_filter_ne (entries : List (Path × Entry)) {p q : Path} (h : q ≠ p) :
    (entries.filter (·.1 ≠ p)).lookup q = entries.lookup q := by
  induction entries with
  | nil => rfl
  | cons e rest ih =>
    obtain ⟨r, e⟩ := e
    by_cases hr : r = p
    · subst hr
      simpa [List.lookup_cons, beq_false_of_ne h] using ih
    · simp_all [List.lookup_cons]

theorem find?_put (f : Folder) {p : Path} (hp : p.isFixed = false) (q : Path) (e : Entry) :
    (f.put p e).find? q = if q = p then some e else f.find? q := by
  by_cases h : q = p
  · simp [find?, put, h, hp]
  · simp only [find?, put, List.lookup_cons, beq_false_of_ne h, lookup_filter_ne _ h, h, if_false]

def erase (f : Folder) (p : Path) : Folder := { f with entries := f.entries.filter (·.1 ≠ p) }

/-- The files in the working folder; what is kept outside it is not counted. -/
def files (f : Folder) : List (Path × ByteArray) :=
  f.entries.filterMap fun (p, e) =>
    match e with
    | .file bytes => if p.isInside then some (p, bytes) else none
    | .folder => none

def file? (f : Folder) (p : Path) : Option ByteArray :=
  match f.find? p with
  | some (.file bytes) => some bytes
  | _ => none

/-- There is a file with exactly these bytes. -/
def holds (f : Folder) (p : Path) (bytes : ByteArray) : Bool :=
  match f.file? p with
  | some found => found.data = bytes.data
  | none => false

/-- The files that differ from an earlier state, with their bytes, or with nothing if they are
gone. -/
def changesSince (f old : Folder) : List (Path × Option ByteArray) :=
  (f.files.filter fun (p, bytes) => !old.holds p bytes).map (fun (p, bytes) => (p, some bytes)) ++
    (old.files.filter fun (p, _) => (f.file? p).isNone).map fun (p, _) => (p, none)

end Folder

end TapeStudio
