import TapeStudio.Text.Blank
import TapeStudio.Text.Digit

/-! Whole numbers written in decimal. -/
namespace TapeStudio.Text

/-- The most digits a numeral may have. -/
def maxDigits : Nat := 4300

/-- The digits of a numeral, most significant first. One underscore may stand between two of
them. -/
def digits? : Text → Option (List Nat)
  | [] => none
  | [c] => (digit? c).map ([·])
  | c :: '_' :: rest => do
    let d ← digit? c
    let ds ← digits? rest
    pure (d :: ds)
  | c :: rest => do
    let d ← digit? c
    let ds ← digits? rest
    pure (d :: ds)

def magnitude? (t : Text) : Option Nat := do
  let ds ← digits? t
  if ds.length ≤ maxDigits then some (ds.foldl (fun n d => 10 * n + d) 0) else none

/-- White space that may stand around a numeral: any but the separators among the control
characters. -/
def isPadding (c : Char) : Bool := isBlank c && !(0x1C ≤ c.toNat && c.toNat ≤ 0x1F)

/-- An optional sign and digits, with white space around them. -/
def integer? (t : Text) : Option Int :=
  match dropEndWhile isPadding (t.dropWhile isPadding) with
  | '-' :: rest => (magnitude? rest).map fun n => -(n : Int)
  | '+' :: rest => (magnitude? rest).map fun n => (n : Int)
  | rest => (magnitude? rest).map fun n => (n : Int)

def ofInteger (n : Int) : Text := (toString n).toList

end TapeStudio.Text
