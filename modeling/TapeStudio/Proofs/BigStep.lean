import TapeStudio.Machine.Terminal
import TapeStudio.Proofs.Outline

/-! What a program means by its structure alone. Commands act on an endless tape of zeros, and a
loop repeats its body while the cell under the pointer is not zero. No position and no jump table
occurs here. -/
namespace TapeStudio

/-- The tape, the lines that are left to read, and what was read and printed so far. `reach` is the
rightmost cell that was visited. -/
structure Configuration where
  cells : Nat → Nat
  pointer : Nat
  reach : Nat
  lines : List Text
  reads : Nat
  output : List CodePoint

namespace Configuration

def initial (lines : List Text) : Configuration := ⟨fun _ => 0, 0, 0, lines, 0, []⟩

def cell (x : Configuration) : Nat := x.cells x.pointer

def write (x : Configuration) (value : Nat) : Configuration :=
  { x with cells := fun k => if k = x.pointer then value else x.cells k }

def takeLine (x : Configuration) : Configuration :=
  { x with lines := x.lines.tail, reads := x.reads + 1 }

end Configuration

/-- The effect of a command, with an ending if it fails. -/
def Operation.act : Operation → Configuration → Option Ending × Configuration
  | .moveRight, x =>
    (none, { x with pointer := x.pointer + 1, reach := max x.reach (x.pointer + 1) })
  | .moveLeft, x =>
    if x.pointer = 0 then (some .leftEnd, x) else (none, { x with pointer := x.pointer - 1 })
  | .increment, x => (none, x.write (if 255 ≤ x.cell then 0 else x.cell + 1))
  | .decrement, x => (none, x.write (if x.cell = 0 then 255 else x.cell - 1))
  | .print, x => (none, { x with output := x.output ++ [⟨x.cell⟩] })
  | .read, x =>
    match x.lines with
    | [] | [] :: _ => (some .endOfInput, x.takeLine)
    | ['\n'] :: _ => (some .emptyLine, x.takeLine)
    | (first :: _) :: _ => (none, x.takeLine.write first.toNat)

/-- The block brings a configuration to another one, with an ending if it fails on the way. -/
inductive Block.Runs : Block → Configuration → Option Ending → Configuration → Prop where
  | done {x : Configuration} : Runs .done x none x
  | command {o : Operation} {rest : Block} {x y z : Configuration} {e : Option Ending}
      (h : o.act x = (none, y)) (tail : Runs rest y e z) : Runs (.command o rest) x e z
  | failure {o : Operation} {rest : Block} {x y : Configuration} {e : Ending}
      (h : o.act x = (some e, y)) : Runs (.command o rest) x (some e) y
  | comment {c : Char} {h : Instruction.ofChar? c = none} {rest : Block} {x y : Configuration}
      {e : Option Ending} (tail : Runs rest x e y) : Runs (.comment c h rest) x e y
  | skip {body rest : Block} {x y : Configuration} {e : Option Ending}
      (h : x.cell = 0) (tail : Runs rest x e y) : Runs (.loop body rest) x e y
  | again {body rest : Block} {x y z : Configuration} {e : Option Ending}
      (h : x.cell ≠ 0) (once : Runs body x none y) (more : Runs (.loop body rest) y e z) :
      Runs (.loop body rest) x e z
  | failureInside {body rest : Block} {x y : Configuration} {e : Ending}
      (h : x.cell ≠ 0) (once : Runs body x (some e) y) : Runs (.loop body rest) x (some e) y

/-- An open bracket without a partner does nothing on a cell that is not zero, and fails on
zero. -/
inductive Outline.Runs : Outline → Configuration → Option Ending → Configuration → Prop where
  | last {b : Block} {x y : Configuration} {e : Option Ending} (h : b.Runs x e y) :
      Runs (.last b) x e y
  | pass {b : Block} {rest : Outline} {x y z : Configuration} {e : Option Ending}
      (before : b.Runs x none y) (h : y.cell ≠ 0) (tail : Runs rest y e z) :
      Runs (.opening b rest) x e z
  | unmatched {b : Block} {rest : Outline} {x y : Configuration}
      (before : b.Runs x none y) (h : y.cell = 0) :
      Runs (.opening b rest) x (some .unmatchedBracket) y
  | failure {b : Block} {rest : Outline} {x y : Configuration} {e : Ending}
      (before : b.Runs x (some e) y) : Runs (.opening b rest) x (some e) y

/-- What is left of a run: how it ended, what it printed and read, and its tape. -/
structure Report where
  ending : Ending
  output : List CodePoint
  reads : Nat
  pointer : Int
  memory : List Nat
  deriving DecidableEq

/-- The notice of an ending as it is printed, with the newline after it. -/
def Ending.printed (e : Ending) : List CodePoint :=
  match e.notice? with
  | some message => CodePoint.ofText message.toList ++ CodePoint.ofText ['\n']
  | none => []

/-- The report of a configuration in which a run ended. A step over the left end was taken before
it was refused. -/
def Configuration.report (x : Configuration) (e : Ending) : Report where
  ending := e
  output := x.output ++ e.printed
  reads := x.reads
  pointer := if e = .leftEnd then -1 else x.pointer
  memory := (List.range (x.reach + 1)).map x.cells

/-- A program with these lines to read ends with this report. -/
def Outline.Yields (o : Outline) (lines : List Text) (r : Report) : Prop :=
  ∃ e x, o.Runs (.initial lines) e x ∧ x.report (e.getD .completed) = r

/-- The report of a state of the machine at a terminal. -/
def Machine.report (m : Machine) (s : Terminal) (e : Ending) : Report :=
  ⟨e, s.output, s.reads, m.pointer, m.memory.toList⟩

/-- An execution of a text at a terminal without stop requests ends with this report. -/
def Terminal.Yields (t : Text) (switches : Switches) (lines : List Text) (r : Report) : Prop :=
  ∃ fuel m, let outcome := Terminal.execute fuel (.ok t) (.initial switches lines none none)
    outcome.ending ≠ .unfinished ∧ outcome.machine? = some m ∧
      m.report outcome.console outcome.ending = r

end TapeStudio
