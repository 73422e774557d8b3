import TapeStudio.Folder.Change

/-! Unpacking an archive in the working folder. -/
namespace TapeStudio

/-- A file in an archive, or a folder if its name ends with a separator. -/
structure Member where
  name : Text
  bytes : ByteArray

abbrev Archive := List Member

namespace Member

/-- A name in an archive ends before its first zero character. -/
def storedName (m : Member) : Text := m.name.takeWhile (· ≠ '\x00')

/-- The name under which a member is unpacked. Parts that lead nowhere or upwards are left out, so
that it is always inside the working folder. -/
def target (m : Member) : Text :=
  let parts := (Path.partsOf m.storedName).filter fun part =>
    part ≠ Path.currentPart && part ≠ Path.parentPart
  if parts.isEmpty then Path.currentPart else Path.toName parts

def unpack (m : Member) : FolderChange := do
  FolderChange.makeMissing (Path.leadingNames m.target)
  if Path.namesFolder m.storedName then FolderChange.ensureFolder m.target
  else FolderChange.ofStep (·.write m.target m.bytes)

end Member

/-- Unpacks the members in order. Those before a fault stay unpacked. -/
def Archive.unpack : Archive → FolderChange
  | [] => pure ()
  | m :: rest => do
    m.unpack
    Archive.unpack rest

end TapeStudio
