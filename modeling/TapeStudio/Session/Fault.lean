import TapeStudio.Machine.Ending
import TapeStudio.Value.Basic

/-! Why an action of a session failed. -/
namespace TapeStudio

/-- Why a reply that is no name cannot be opened. A whole number is taken for an open stream. -/
inductive NoName where
  | wrongKind (kind : String)
  | negativeStream
  | closedStream
  deriving DecidableEq, Repr

namespace NoName

/-- Streams are numbered below this bound. -/
def streamBound : Int := 2147483648

def ofReply : Value → NoName
  | .bool _ => .closedStream
  | .integer n =>
    if n < -streamBound || streamBound ≤ n then .wrongKind (Value.integer n).kindName
    else if n < 0 then .negativeStream
    else .closedStream
  | reply => .wrongKind reply.kindName

def message : NoName → String
  | .wrongKind kind => s!"expected str, bytes or os.PathLike object, not {kind}"
  | .negativeStream => "negative file descriptor"
  | .closedStream => "[Errno 9] Bad file descriptor"

end NoName

inductive Fault where
  | file (fault : FileFault)
  | noName (cause : NoName)
  | badIndex (index : Text)
  | badImage (message : Text)
  | missingTheme (name : String)
  | badSettings
  | strayPercent (value : Text) (place : Nat)
  /-- Only texts can be kept in the settings. -/
  | noText
  | badArchive
  | noHighlighter
  | endOfInput
  /-- The program was asked to end while it waited for a line. -/
  | interrupted
  /-- The bound on the number of turns was reached. -/
  | unfinished
  deriving DecidableEq, Repr

namespace Fault

def message? : Fault → Option Text
  | .file fault => fault.message?
  | .noName cause => some cause.message.toList
  | .badIndex index => some ("bad text index \"".toList ++ index ++ ['"'])
  | .badImage message => some message
  | .missingTheme name => some s!"can't find package ttk::theme::{name}".toList
  | .badSettings => some "Problem with configuration file".toList
  | .strayPercent value place =>
    some ("invalid interpolation syntax in ".toList ++ Text.quoted value ++
      s!" at position {place}".toList)
  | .noText => some "option values must be strings".toList
  | .badArchive => some "File is not a zip file".toList
  | .noHighlighter => some "name 'lex' is not defined".toList
  | .endOfInput => Ending.message? .endOfInput
  | .interrupted | .unfinished => none

end Fault

end TapeStudio
