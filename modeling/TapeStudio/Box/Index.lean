import TapeStudio.Text.Fields

/-! Names of places in a text box. -/
namespace TapeStudio

/-- Lines are counted from one and may be out of range on either side; columns are counted from
zero. -/
inductive BoxIndex where
  /-- The insertion cursor. -/
  | insertion
  /-- After the newline that closes the box. -/
  | finish
  /-- Before the newline that closes the box. -/
  | lastPlace
  | column (line : Int) (column : Nat)
  | lineEnd (line : Int)
  deriving DecidableEq, Repr

namespace BoxIndex

def digitsOf? (t : Text) : Option Nat :=
  if t.isEmpty || !t.all Char.isDigit then none
  else some (t.foldl (fun n c => 10 * n + (c.toNat - '0'.toNat)) 0)

def lineOf? : Text → Option Int
  | '-' :: digits => (digitsOf? digits).map fun n => -(n : Int)
  | digits => (digitsOf? digits).map fun n => (n : Int)

def parse? (t : Text) : Option BoxIndex :=
  if t = "insert".toList then some .insertion
  else if t = "end".toList then some .finish
  else if t = "end-1c".toList then some .lastPlace
  else match Text.fields '.' t with
    | [line, place] =>
      if place = "end".toList then (lineOf? line).map .lineEnd
      else do
        let n ← lineOf? line
        let c ← digitsOf? place
        pure (.column n c)
    | _ => none

end BoxIndex

end TapeStudio
