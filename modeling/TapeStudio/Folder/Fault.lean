import TapeStudio.Text.Quoted

/-! Why a file could not be used. -/
namespace TapeStudio

inductive FileCause where
  | missing
  | alreadyThere
  | isFolder
  | notFolder
  | readOnly
  | tooLong
  | zeroByte
  | undecodable
  deriving DecidableEq, Repr

structure FileFault where
  name : Text
  cause : FileCause
  deriving DecidableEq, Repr

namespace FileFault

/-- A system error: its number and what it means, and the name it is about. -/
def systemMessage (number : Nat) (meaning : String) (name : Text) : Text :=
  s!"[Errno {number}] {meaning}: ".toList ++ Text.quoted name

/-- Bytes that are no text have no message of their own. -/
def message? (f : FileFault) : Option Text :=
  match f.cause with
  | .missing => some (systemMessage 2 "No such file or directory" f.name)
  | .alreadyThere => some (systemMessage 17 "File exists" f.name)
  | .isFolder => some (systemMessage 21 "Is a directory" f.name)
  | .notFolder => some (systemMessage 20 "Not a directory" f.name)
  | .readOnly => some (systemMessage 13 "Permission denied" f.name)
  | .tooLong => some (systemMessage 36 "File name too long" f.name)
  | .zeroByte => some "embedded null byte".toList
  | .undecodable => none

end FileFault

end TapeStudio
