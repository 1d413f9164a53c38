/-!
# Binary floating-point formats

A binary interchange format keeps a number as a pattern of bits: a sign, a biased exponent and a
fraction. Patterns are natural numbers here, and a number is rounded to a pattern in exact integer
arithmetic, to the nearest representable value and from a tie to the even pattern.

Without its sign a pattern is called a *magnitude*. Magnitudes are ordered as the values that they
denote, which is what makes comparison and carry into the next exponent plain arithmetic.
-/

namespace DriverBench.Number

/-- The widths of the two fields of a format, which fix the format. -/
structure BinaryFormat where
  fractionBits : Nat
  exponentBits : Nat
  deriving DecidableEq, Repr

namespace BinaryFormat

/-- The format of 16 bits. -/
def half : BinaryFormat := ⟨10, 5⟩

/-- The format of 32 bits. -/
def single : BinaryFormat := ⟨23, 8⟩

/-- The format of 64 bits. -/
def double : BinaryFormat := ⟨52, 11⟩

/-- What is added to an exponent to store it. -/
def bias (f : BinaryFormat) : Nat :=
  Nat.pow 2 (f.exponentBits - 1) - 1

/-- The weight of the sign bit. -/
def signBit (f : BinaryFormat) : Nat :=
  Nat.pow 2 (f.fractionBits + f.exponentBits)

/-- The magnitude of infinity. Larger magnitudes are not numbers. -/
def infinity (f : BinaryFormat) : Nat :=
  (Nat.pow 2 f.exponentBits - 1) * Nat.pow 2 f.fractionBits

/-- The magnitude of the quiet not-a-number with no other bit set. -/
def notANumber (f : BinaryFormat) : Nat :=
  f.infinity + Nat.pow 2 (f.fractionBits - 1)

/-- The exponent of the least positive value: all values are multiples of that power of two. -/
def leastExponent (f : BinaryFormat) : Int :=
  1 - f.bias - f.fractionBits

/-- A pattern from its sign and its magnitude. -/
def withSign (f : BinaryFormat) (negative : Bool) (magnitude : Nat) : Nat :=
  if negative then f.signBit + magnitude else magnitude

end BinaryFormat

/-- The quotient rounded to the nearest integer, from a tie to the even one. -/
def roundQuotient (num den : Nat) : Nat :=
  let q := num / den
  let r := num % den
  if 2 * r < den then q
  else if den < 2 * r then q + 1
  else if q % 2 = 0 then q else q + 1

/-- The quotient of `num` and `den * 2 ^ e`, rounded. -/
def roundScaled (num den : Nat) (e : Int) : Nat :=
  if 0 ≤ e then roundQuotient num (den * Nat.pow 2 e.toNat)
  else roundQuotient (num * Nat.pow 2 (-e).toNat) den

/-- Whether the quotient of `num` and `den` is at least `2 ^ e`. -/
def reachesPower (num den : Nat) (e : Int) : Bool :=
  if 0 ≤ e then den * Nat.pow 2 e.toNat ≤ num else den ≤ num * Nat.pow 2 (-e).toNat

/-- The exponent of the largest power of two that does not exceed a positive quotient. -/
def floorLog (num den : Nat) : Int :=
  let guess : Int := num.log2 - den.log2
  if reachesPower num den guess then guess else guess - 1

namespace BinaryFormat

/-- The magnitude nearest to a quotient of natural numbers. The quotient is counted in units of
the last place of its binade; a count that fills the binade carries into the exponent field. -/
def roundMagnitude (f : BinaryFormat) (num den : Nat) : Nat :=
  if num = 0 then 0
  else
    let unit := max (floorLog num den - f.fractionBits) f.leastExponent
    let binade := (unit - f.leastExponent).toNat
    min (binade * Nat.pow 2 f.fractionBits + roundScaled num den unit) f.infinity

/-- The count of units of the least exponent that a finite magnitude denotes. -/
def units (f : BinaryFormat) (magnitude : Nat) : Nat :=
  let exponent := magnitude / Nat.pow 2 f.fractionBits
  let fraction := magnitude % Nat.pow 2 f.fractionBits
  if exponent = 0 then fraction
  else (Nat.pow 2 f.fractionBits + fraction) * Nat.pow 2 (exponent - 1)

/-- A finite magnitude as an exact fraction. -/
def fraction (f : BinaryFormat) (magnitude : Nat) : Nat × Nat :=
  (f.units magnitude, Nat.pow 2 (-f.leastExponent).toNat)

end BinaryFormat

end DriverBench.Number
