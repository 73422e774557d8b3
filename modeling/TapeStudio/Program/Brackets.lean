import Std.Data.TreeMap
import TapeStudio.Text.Basic

/-! Matching the brackets of a program, and the jumps between them. -/
namespace TapeStudio

namespace Brackets

/-- The matched pairs of the text that starts at `position`, in the order of their closing
brackets. `pending` holds the open brackets before it, innermost first. A closing bracket with
none pending makes the whole text fail; an open bracket that is never closed has no pair. -/
def pairsFrom? (position : Nat) (pending : List Nat) : Text → Option (List (Nat × Nat))
  | [] => some []
  | '[' :: rest => pairsFrom? (position + 1) (position :: pending) rest
  | ']' :: rest =>
    match pending with
    | [] => none
    | start :: outer => (pairsFrom? (position + 1) outer rest).map ((start, position) :: ·)
  | _ :: rest => pairsFrom? (position + 1) pending rest

def pairs? (t : Text) : Option (List (Nat × Nat)) := pairsFrom? 0 [] t

end Brackets

/-- Where a bracket leads: to its partner. -/
abbrev JumpTable := Std.TreeMap Nat Nat

namespace JumpTable

def connect (jumps : JumpTable) (pair : Nat × Nat) : JumpTable :=
  (jumps.insert pair.1 pair.2).insert pair.2 pair.1

def ofPairs (pairs : List (Nat × Nat)) : JumpTable := pairs.foldl connect ∅

/-- The jumps of a program, unless a bracket closes what was never opened. -/
def ofText? (t : Text) : Option JumpTable := (Brackets.pairs? t).map ofPairs

end JumpTable

end TapeStudio
