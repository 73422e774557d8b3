/-! The eight commands of the language. Every other character is a comment. -/
namespace TapeStudio

inductive Instruction where
  | moveRight
  | moveLeft
  | increment
  | decrement
  | print
  | read
  | loopStart
  | loopEnd
  deriving DecidableEq, Repr

namespace Instruction

def ofChar? : Char → Option Instruction
  | '>' => some .moveRight
  | '<' => some .moveLeft
  | '+' => some .increment
  | '-' => some .decrement
  | '.' => some .print
  | ',' => some .read
  | '[' => some .loopStart
  | ']' => some .loopEnd
  | _ => none

end Instruction

end TapeStudio
