import TapeStudio.Text.Basic

/-! Lines in the wide sense, which end at any of the line and page separators. -/
namespace TapeStudio.Text

def isLineBreak (c : Char) : Bool :=
  (0x0A ≤ c.toNat && c.toNat ≤ 0x0D) || (0x1C ≤ c.toNat && c.toNat ≤ 0x1E) ||
    c.toNat = 0x85 || c.toNat = 0x2028 || c.toNat = 0x2029

/-- The number of lines: a carriage return and a newline are one break, and a final break starts
no further line. `inLine` says that the current line has begun. -/
def countLinesFrom (inLine : Bool) : Text → Nat
  | [] => if inLine then 1 else 0
  | '\r' :: '\n' :: rest => 1 + countLinesFrom false rest
  | c :: rest => if isLineBreak c then 1 + countLinesFrom false rest else countLinesFrom true rest

def countLines (t : Text) : Nat := countLinesFrom false t

end TapeStudio.Text
