import DriverBench.Number.Decimal
import DriverBench.Number.Half
import DriverBench.Text.Utf8
import DriverBench.Text.Abbreviation
/-!
# Typed constants

A constant is read as a value of a type that its place asks for. Integers are written in base 16
after `0x`, in base 8 after a further `0`, else in base 10, and must lie in the range of their
type. Floating-point constants saturate. Nothing is accepted in part.
-/

namespace DriverBench.Number

/-- Constants of this many bytes or more are refused. -/
def constantLimit : Nat := 64

/-- Why a text is no constant of a type. -/
inductive ConstantError where
  | tooLong
  | malformed (text typeName : String)
  | outOfRange (text typeName : String)
  deriving DecidableEq, Repr

/-- The wording of a constant's failure. -/
def ConstantError.message : ConstantError → String
  | .tooLong => s!"定数テキストが長すぎます（{constantLimit} バイト未満にしてください）"
  | .malformed text typeName => s!"'{text}' を {typeName} として解釈できません"
  | .outOfRange text typeName => s!"'{text}' は {typeName} の範囲外です"

/-- The integer types. `size` is the type of byte counts and positions. -/
inductive IntegerType where
  | char | uchar | short | ushort | int | uint | long | ulong | size
  deriving DecidableEq, Repr

namespace IntegerType

/-- The name of a type in programs and in failures. -/
def name : IntegerType → String
  | .char => "char"
  | .uchar => "uchar"
  | .short => "short"
  | .ushort => "ushort"
  | .int => "int"
  | .uint => "uint"
  | .long => "long"
  | .ulong => "ulong"
  | .size => "size"

/-- The number of bytes of a value. -/
def width : IntegerType → Nat
  | .char | .uchar => 1
  | .short | .ushort => 2
  | .int | .uint => 4
  | .long | .ulong | .size => 8

/-- Whether a type has negative values. -/
def isSigned : IntegerType → Bool
  | .char | .short | .int | .long => true
  | .uchar | .ushort | .uint | .ulong | .size => false

/-- The least value of a type. -/
def least (t : IntegerType) : Int :=
  if t.isSigned then -(Nat.pow 2 (8 * t.width - 1) : Nat) else 0

/-- The largest value of a type. -/
def largest (t : IntegerType) : Int :=
  (Nat.pow 2 (if t.isSigned then 8 * t.width - 1 else 8 * t.width) : Nat) - 1

end IntegerType

/-- The value of a digit of the bases up to sixteen. -/
def digitValue? (c : Char) : Option Nat :=
  if '0' ≤ c ∧ c ≤ '9' then some (c.toNat - '0'.toNat)
  else if 'a' ≤ c ∧ c ≤ 'f' then some (c.toNat - 'a'.toNat + 10)
  else if 'A' ≤ c ∧ c ≤ 'F' then some (c.toNat - 'A'.toNat + 10)
  else none

/-- The value of digits of a base, read after those worth `acc`. -/
def readBase (base : Nat) : Nat → List Char → Option Nat
  | acc, [] => some acc
  | acc, c :: rest =>
    match digitValue? c with
    | some d => if d < base then readBase base (acc * base + d) rest else none
    | none => none

/-- The value of at least one digit of a base. -/
def readNatural (base : Nat) : List Char → Option Nat
  | [] => none
  | cs => readBase base 0 cs

/-- Reads an unsigned integer, whose beginning tells the base. -/
def readMagnitude : List Char → Option Nat
  | '0' :: 'x' :: digits => readNatural 16 digits
  | '0' :: 'X' :: digits => readNatural 16 digits
  | '0' :: d :: digits => readNatural 8 (d :: digits)
  | digits => readNatural 10 digits

/-- The integer that a text denotes, of any size. -/
def readInteger? (cs : List Char) : Option Int :=
  let (negative, body) := takeSign cs
  (readMagnitude body).map fun n => if negative then -(n : Int) else n

/-- Refuses texts that are too long to be constants. -/
def checkLength (s : String) : Except ConstantError Unit :=
  if constantLimit ≤ Text.byteLength s.toList then .error .tooLong else .ok ()

/-- Reads a constant of an integer type. -/
def IntegerType.read (t : IntegerType) (s : String) : Except ConstantError Int := do
  checkLength s
  match readInteger? s.toList with
  | none => .error (.malformed s t.name)
  | some v => if t.least ≤ v ∧ v ≤ t.largest then .ok v else .error (.outOfRange s t.name)

/-- Reads a constant of a type without negative values. -/
def IntegerType.readNatural (t : IntegerType) (s : String) : Except ConstantError Nat :=
  (t.read s).map Int.toNat

/-- The floating-point types. -/
inductive FloatType where
  | half | float | double
  deriving DecidableEq, Repr

namespace FloatType

/-- The name of a type in programs and in failures. -/
def name : FloatType → String
  | .half => "half"
  | .float => "float"
  | .double => "double"

/-- The number of bytes of a value. -/
def width : FloatType → Nat
  | .half => 2
  | .float => 4
  | .double => 8

/-- The pattern that a decimal text stands for. A half is read as a double and truncated. -/
def pattern? : FloatType → String → Option Nat
  | .half, s => (BinaryFormat.double.read? s).map truncateToHalf
  | .float, s => BinaryFormat.single.read? s
  | .double, s => BinaryFormat.double.read? s

/-- Reads a constant of a floating-point type, as a pattern. -/
def read (t : FloatType) (s : String) : Except ConstantError Nat := do
  checkLength s
  match t.pattern? s with
  | none => .error (.malformed s t.name)
  | some p => .ok p

end FloatType

/-- Reads a truth value. -/
def readBool (s : String) : Except ConstantError Bool := do
  checkLength s
  let word := Text.foldCase s
  if ["1", "y", "t", "yes", "true"].contains word then .ok true
  else if ["0", "n", "f", "no", "false"].contains word then .ok false
  else .error (.malformed s "bool")

end DriverBench.Number
