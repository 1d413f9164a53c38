import DriverBench.Number.Binary
/-!
# Numbers in decimal writing

The grammar is `[+-] (digits [. digits] | . digits) [(e|E) [+-] digits]`, with at least one digit
before the exponent, and the words `inf`, `infinity` and `nan` in any case. A number too large
for a format reads as infinity, one too small as zero.
-/

namespace DriverBench.Number

/-- What a decimal text denotes, its sign apart. -/
inductive Decimal where
  /-- `digits * 10 ^ exponent` -/
  | finite (digits : Nat) (exponent : Int)
  | infinity
  | notANumber
  deriving DecidableEq, Repr

/-- The value of a list of decimal digits. -/
def digitsValue (ds : List Char) : Nat :=
  ds.foldl (fun n d => n * 10 + (d.toNat - '0'.toNat)) 0

/-- Divides a text into its leading sign and the rest; the flag tells a minus. -/
def takeSign : List Char → Bool × List Char
  | '-' :: rest => (true, rest)
  | '+' :: rest => (false, rest)
  | cs => (false, cs)

/-- The exponent of a number: what follows its digits, which must be nothing or an exponent. -/
def readExponent : List Char → Option Int
  | [] => some 0
  | c :: rest =>
    let (negative, ds) := takeSign rest
    if (c == 'e' || c == 'E') && !ds.isEmpty && ds.all Char.isDigit then
      some (if negative then -(digitsValue ds : Int) else digitsValue ds)
    else none

/-- The digits after the point, and what follows them; there need not be a point. -/
def takeFraction : List Char → List Char × List Char
  | '.' :: rest => (rest.takeWhile Char.isDigit, rest.dropWhile Char.isDigit)
  | cs => ([], cs)

/-- Reads an unsigned number in digits. -/
def readDigits (cs : List Char) : Option Decimal :=
  let whole := cs.takeWhile Char.isDigit
  let (fraction, rest) := takeFraction (cs.dropWhile Char.isDigit)
  if whole.isEmpty && fraction.isEmpty then none
  else
    (readExponent rest).map fun e =>
      .finite (digitsValue (whole ++ fraction)) (e - fraction.length)

/-- Reads an unsigned number in words. -/
def readWord (cs : List Char) : Option Decimal :=
  let word := cs.map Char.toLower
  if word = "inf".toList ∨ word = "infinity".toList then some .infinity
  else if word = "nan".toList then some .notANumber
  else none

/-- Reads a decimal text: whether it has a minus sign, and what it denotes otherwise. -/
def Decimal.read? (cs : List Char) : Option (Bool × Decimal) :=
  let (negative, body) := takeSign cs
  ((readDigits body).or (readWord body)).map ((negative, ·))

namespace BinaryFormat

/-- Whether `digits * 10 ^ exponent` is so large that it rounds to infinity whatever its digits;
each decimal exponent is worth three binary ones at least. -/
def surelyInfinite (f : BinaryFormat) (digits : Nat) (exponent : Int) : Bool :=
  0 ≤ exponent && (f.bias : Int) + 1 ≤ digits.log2 + 3 * exponent

/-- Whether `digits * 10 ^ exponent` is so small that it rounds to zero whatever its digits. -/
def surelyZero (f : BinaryFormat) (digits : Nat) (exponent : Int) : Bool :=
  exponent < 0 && digits.log2 + 1 + 3 * exponent ≤ -((f.bias : Int) + f.fractionBits)

/-- The magnitude nearest to a decimal number. The two guards keep the powers of ten small. -/
def magnitudeOfDecimal (f : BinaryFormat) : Decimal → Nat
  | .infinity => f.infinity
  | .notANumber => f.notANumber
  | .finite digits exponent =>
    if digits = 0 then 0
    else if f.surelyInfinite digits exponent then f.infinity
    else if f.surelyZero digits exponent then 0
    else if 0 ≤ exponent then f.roundMagnitude (digits * Nat.pow 10 exponent.toNat) 1
    else f.roundMagnitude digits (Nat.pow 10 (-exponent).toNat)

/-- Reads a decimal text as a pattern of the format. -/
def read? (f : BinaryFormat) (s : String) : Option Nat :=
  (Decimal.read? s.toList).map fun (negative, d) => f.withSign negative (f.magnitudeOfDecimal d)

end BinaryFormat

end DriverBench.Number
