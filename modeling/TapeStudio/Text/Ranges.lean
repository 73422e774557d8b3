/-! Sets of characters given as ranges of scalar values. -/
namespace TapeStudio.Text

/-- The scalar value of `c` lies in one of the ranges, both ends included. -/
def inRanges (ranges : List (Nat × Nat)) (c : Char) : Bool :=
  ranges.any fun r => r.1 ≤ c.toNat && c.toNat ≤ r.2

end TapeStudio.Text
