/-! Doubles as exact binary fractions. -/
namespace TapeStudio.Double

/-- A number with `n` digits has its nearest double at zero or beyond all finite ones when its
exponent leaves this bound. -/
def exponentBound (n : Nat) : Nat := n + 400

/-- The double nearest to `digits * 10 ^ exponent`, with a sign that zero has too. -/
def ofDecimal (negative : Bool) (digits : Nat) (exponent : Int) : Float :=
  let bound := exponentBound (Nat.toDigits 10 digits).length
  let size := Float.ofScientific digits (exponent < 0) (min exponent.natAbs bound)
  if negative then -size else size

/-- The exponent field with all bits set marks what is no number. -/
def isFinite (x : Float) : Bool := (x.toBits >>> 52) &&& 0x7FF != 0x7FF

/-- The whole part of a finite double, cut toward zero. It is read off the sign, the exponent and
the fraction. -/
def truncate (x : Float) : Int :=
  let bits := x.toBits.toNat
  let exponent := (bits >>> 52) % 0x800
  let significand := bits % 0x10000000000000 + 0x10000000000000
  let size : Nat := if exponent = 0 then 0
    else if 1075 ≤ exponent then significand <<< (exponent - 1075)
    else significand >>> (1075 - exponent)
  if bits >>> 63 = 1 then -(size : Int) else size

end TapeStudio.Double
