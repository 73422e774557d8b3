import TapeStudio.Folder.Fault

/-! How an execution ends. -/
namespace TapeStudio

inductive Ending where
  | completed
  /-- The stop switch was found on after an instruction. -/
  | stopped
  /-- The stop switch was found on while a line was awaited. -/
  | interrupted
  | unbalancedBrackets
  | unmatchedBracket
  | leftEnd
  | endOfInput
  | emptyLine
  | unreadable (fault : FileFault)
  /-- No cell under the pointer. -/
  | offTape
  /-- The bound on the number of steps was reached. -/
  | unfinished
  deriving DecidableEq, Repr

namespace Ending

/-- What is printed on the console of the program as it ends. -/
def notice? : Ending → Option String
  | .unbalancedBrackets => some "Parse Error"
  | .unmatchedBracket => some "Key Error"
  | .leftEnd => some "Range error"
  | _ => none

def endOfInputMessage : String := "EOF when reading a line"

/-- What is reported to whoever started the program. -/
def message? : Ending → Option Text
  | .endOfInput => some endOfInputMessage.toList
  | .emptyLine => some "string index out of range".toList
  | .offTape => some "list index out of range".toList
  | .unreadable fault => fault.message?
  | _ => none

end Ending

end TapeStudio
