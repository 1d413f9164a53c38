import DriverBench.Number.Binary
/-!
# Half precision by truncation

A double becomes a half by cutting its fraction off, never by rounding it. What lies above the
largest finite half becomes infinity, what lies below the least normal half becomes zero, both
with the sign kept; every not-a-number becomes the same one.
-/

namespace DriverBench.Number

/-- The magnitude of 65504, the largest finite half, as a double. -/
def largestHalf : Nat := 0x40EFFC0000000000

/-- The magnitude of `2 ^ -14`, the least normal half, as a double. -/
def leastNormalHalf : Nat := 0x3F10000000000000

/-- The half that a double truncates to, both as patterns. Within range the exponent is rebiased
and the ten highest bits of the fraction stay. -/
def truncateToHalf (pattern : Nat) : Nat :=
  let magnitude := pattern % BinaryFormat.double.signBit
  let signed := BinaryFormat.half.withSign (pattern / BinaryFormat.double.signBit % 2 == 1)
  if BinaryFormat.double.infinity < magnitude then BinaryFormat.half.notANumber
  else if largestHalf < magnitude then signed BinaryFormat.half.infinity
  else if magnitude < leastNormalHalf then signed 0
  else
    let rebias := BinaryFormat.double.bias - BinaryFormat.half.bias
    signed (magnitude / 0x40000000000 - rebias * Nat.pow 2 BinaryFormat.half.fractionBits)

end DriverBench.Number
