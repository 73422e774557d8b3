import TapeStudio.Text.CodePoint

/-! What a running program is connected to. -/
namespace TapeStudio

/-- `stop` asks the program to end, `running` says that it has not ended by itself. -/
structure Switches where
  stop : Bool
  running : Bool
  deriving DecidableEq, Repr

/-- The answer to a request for a line: the line, or the news that the user asked the program to
end while it waited. -/
inductive Reading where
  | line (text : Text)
  | interrupted
  deriving DecidableEq, Repr

/-- A console is whatever can take printed pieces and give lines. It also holds the switches,
because it is at the console that they are thrown. -/
structure Console (σ : Type) where
  switches : σ → Switches
  setSwitches : Switches → σ → σ
  write : List CodePoint → σ → σ
  readLine : σ → Reading × σ

namespace Console

variable {σ : Type}

/-- A message is two pieces: its text and the newline after it. -/
def announce (c : Console σ) (message : String) (s : σ) : σ :=
  c.write (CodePoint.ofText ['\n']) (c.write (CodePoint.ofText message.toList) s)

def setRunning (c : Console σ) (running : Bool) (s : σ) : σ :=
  c.setSwitches { c.switches s with running := running } s

end Console

/-- What was typed on a line: nothing at all at the end of the input, else the line without its
newline. -/
def typedOn? (line : Text) : Option Text :=
  if line.isEmpty then none
  else if line.getLast? = some '\n' then some line.dropLast
  else some line

end TapeStudio
