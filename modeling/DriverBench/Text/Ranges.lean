/-!
# Ranges of characters

A class of characters is given by the ranges of their numbers.
-/

namespace DriverBench.Text

/-- Whether a character's number lies in one of the ranges, whose ends belong to them. -/
def isWithin (ranges : List (Nat × Nat)) (c : Char) : Bool :=
  ranges.any fun (low, high) => low ≤ c.toNat && c.toNat ≤ high

end DriverBench.Text
