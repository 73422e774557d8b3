/-! The tape machine: an instruction pointer, a data pointer and the cells reached so far. -/
namespace TapeStudio

/-- `pointer` is an integer because a step to the left of the first cell is taken before it is
refused. -/
structure Machine where
  position : Nat
  pointer : Int
  memory : Array Nat
  deriving DecidableEq, Repr

namespace Machine

def initial : Machine := ⟨0, 0, #[0]⟩

def cell? (m : Machine) : Option Nat :=
  if m.pointer < 0 then none else m.memory[m.pointer.toNat]?

def store (m : Machine) (value : Nat) : Machine :=
  { m with memory := m.memory.setIfInBounds m.pointer.toNat value }

/-- The tape grows by a zero when the pointer leaves its right end. -/
def moveRight (m : Machine) : Machine :=
  let pointer := m.pointer + 1
  { m with
    pointer := pointer
    memory := if (m.memory.size : Int) ≤ pointer then m.memory.push 0 else m.memory }

def moveLeft (m : Machine) : Machine := { m with pointer := m.pointer - 1 }

def jump (m : Machine) (target : Nat) : Machine := { m with position := target }

def advance (m : Machine) : Machine := { m with position := m.position + 1 }

/-- One more, and zero after the largest byte. A cell that was read may exceed a byte; it falls to
zero as well. -/
def successor (value : Nat) : Nat := if 255 < value + 1 then 0 else value + 1

/-- One less, and the largest byte before zero. -/
def predecessor : Nat → Nat
  | 0 => 255
  | n + 1 => n

end Machine

end TapeStudio
