import TapeStudio.Text.Basic

/-! Numbers printed as characters. A cell of the tape may hold a value that no `Char` has, half of
a surrogate pair, and it is printed all the same. -/
namespace TapeStudio

structure CodePoint where
  value : Nat
  deriving DecidableEq, Repr

namespace CodePoint

def ofChar (c : Char) : CodePoint := ⟨c.toNat⟩

def ofText (t : Text) : List CodePoint := t.map ofChar

/-- The character with this value, if there is one. -/
def toChar? (p : CodePoint) : Option Char :=
  if p.value.isValidChar then some (Char.ofNat p.value) else none

/-- The text printed, unless part of it is no character. -/
def toText? (ps : List CodePoint) : Option Text := ps.mapM toChar?

end CodePoint

end TapeStudio
