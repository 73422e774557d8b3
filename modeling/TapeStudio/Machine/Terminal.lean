import TapeStudio.Machine.Run

/-! A console with a fixed list of lines to read, that keeps what is printed. -/
namespace TapeStudio

/-- `stopOnRead` and `stopOnWrite` name the read and the piece, counted from one, during which the
stop switch is thrown. -/
structure Terminal where
  switches : Switches
  lines : List Text
  reads : Nat
  pieces : Array (List CodePoint)
  stopOnRead : Option Nat
  stopOnWrite : Option Nat

namespace Terminal

def initial (switches : Switches) (lines : List Text) (stopOnRead stopOnWrite : Option Nat) :
    Terminal :=
  ⟨switches, lines, 0, #[], stopOnRead, stopOnWrite⟩

def output (t : Terminal) : List CodePoint := t.pieces.toList.flatten

def stopIf (due : Bool) (s : Switches) : Switches := if due then { s with stop := true } else s

def write (piece : List CodePoint) (t : Terminal) : Terminal :=
  { t with
    pieces := t.pieces.push piece
    switches := stopIf (t.stopOnWrite = some (t.pieces.size + 1)) t.switches }

/-- The next line, and an empty text when none is left. -/
def readLine (t : Terminal) : Reading × Terminal :=
  (.line (t.lines.head?.getD []),
    { t with
      lines := t.lines.tail
      reads := t.reads + 1
      switches := stopIf (t.stopOnRead = some (t.reads + 1)) t.switches })

def console : Console Terminal where
  switches := Terminal.switches
  setSwitches switches t := { t with switches := switches }
  write := write
  readLine := readLine

def execute (fuel : Nat) (source : Except FileFault Text) (t : Terminal) :
    Machine.Outcome Terminal :=
  Machine.execute console fuel source t

end Terminal

end TapeStudio
