import DriverBench.Number.Constant
import DriverBench.Number.Bytes
/-!
# Elements of typed arrays

The types that an array constructor such as `int(1, 2)` may name, and the bytes of one element.
-/

namespace DriverBench.Number

/-- The type of the elements of an array. -/
inductive ElementType where
  | floating (t : FloatType)
  | integer (t : IntegerType)
  deriving DecidableEq, Repr

namespace ElementType

/-- The element types, in the order in which they are listed. -/
def all : List ElementType :=
  [.floating .half, .floating .float, .floating .double, .integer .char, .integer .uchar,
    .integer .short, .integer .ushort, .integer .int, .integer .uint, .integer .long,
    .integer .ulong]

/-- The word that names the type. -/
def keyword : ElementType → String
  | .floating t => t.name
  | .integer t => t.name

/-- The type that a word names exactly. -/
def ofKeyword? (word : String) : Option ElementType :=
  all.find? (·.keyword == word)

/-- The number of bytes of one element. -/
def width : ElementType → Nat
  | .floating t => t.width
  | .integer t => t.width

/-- How an array of the type is called in listings. -/
def label (t : ElementType) : String :=
  s!"{t.keyword} data"

/-- Reads a constant as an element and gives its bytes. -/
def bytesOf (t : ElementType) (s : String) : Except ConstantError (List UInt8) :=
  match t with
  | .floating f => (f.read s).map (littleEndian f.width)
  | .integer i => (i.read s).map fun v => littleEndian i.width (twosComplement (8 * i.width) v)

end ElementType

end DriverBench.Number
