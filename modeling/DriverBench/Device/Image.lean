import DriverBench.Text.Abbreviation
/-!
# Formats and extents of images

An image is a rectangle of pixels. Its format says how many channels a pixel has and of what type,
its extent how many pixels there are. Sizes count bytes and are capped at the largest size that
can be written, so that a cap is never taken for a size that fits.
-/

namespace DriverBench.Device

/-- The bound of sizes and positions: they are below `2 ^ 64`. -/
def sizeBound : Nat := 0x10000000000000000

/-- A size that is too large to be written counts as the largest one. -/
def cap (n : Nat) : Nat :=
  min n (sizeBound - 1)

/-- To cap before a multiplication too makes no difference: what was capped does not get smaller. -/
theorem cap_cap_mul (n : Nat) {k : Nat} (hk : 0 < k) : cap (cap n * k) = cap (n * k) := by
  unfold cap
  by_cases hn : n ≤ sizeBound - 1
  · rw [Nat.min_eq_left hn]
  · have hcapped : sizeBound - 1 ≤ (sizeBound - 1) * k := Nat.le_mul_of_pos_right _ hk
    have hexact : n ≤ n * k := Nat.le_mul_of_pos_right _ hk
    rw [Nat.min_eq_right (Nat.le_of_not_le hn), Nat.min_eq_right hcapped,
      Nat.min_eq_right (by omega)]

/-- A size that is capped to a smaller one than the greatest is not capped. -/
theorem cap_eq_self {n : Nat} (h : cap n < sizeBound - 1) : cap n = n := by
  unfold cap at *
  omega

/-- A capped size is compared with what can be written as the size itself is. -/
theorem lt_cap_iff {length n : Nat} (h : length < sizeBound - 1) : length < cap n ↔ length < n := by
  unfold cap
  omega

/-- The channels of a pixel. -/
inductive ChannelOrder where
  | r | ra | rgb | rgba
  deriving DecidableEq, Repr

namespace ChannelOrder

/-- The orders, from the fewest channels to the most. -/
def all : List ChannelOrder := [.r, .ra, .rgb, .rgba]

/-- The number of channels. -/
def channels : ChannelOrder → Nat
  | .r => 1
  | .ra => 2
  | .rgb => 3
  | .rgba => 4

/-- The name of an order. -/
def name : ChannelOrder → String
  | .r => "cl_r"
  | .ra => "cl_ra"
  | .rgb => "cl_rgb"
  | .rgba => "cl_rgba"

/-- The order that a text names, in any case. -/
def ofName? (text : String) : Option ChannelOrder :=
  all.find? fun o => o.name == Text.foldCase text

end ChannelOrder

/-- The type of a channel. -/
inductive ChannelType where
  | char | uchar | short | ushort | int | uint | half | float
  deriving DecidableEq, Repr

namespace ChannelType

/-- The channel types, in the order in which they are listed. -/
def all : List ChannelType := [.char, .uchar, .short, .ushort, .int, .uint, .half, .float]

/-- The name of a channel type. -/
def name : ChannelType → String
  | .char => "char"
  | .uchar => "uchar"
  | .short => "short"
  | .ushort => "ushort"
  | .int => "int"
  | .uint => "uint"
  | .half => "half"
  | .float => "float"

/-- The names of all channel types. -/
def names : List String := all.map name

/-- The number of bytes of a channel. -/
def width : ChannelType → Nat
  | .char | .uchar => 1
  | .short | .ushort | .half => 2
  | .int | .uint | .float => 4

end ChannelType

/-- What a pixel is made of. -/
structure ImageFormat where
  order : ChannelOrder
  type : ChannelType
  deriving DecidableEq, Repr

namespace ImageFormat

/-- The number of bytes of a pixel. -/
def pixelSize (f : ImageFormat) : Nat :=
  f.order.channels * f.type.width

/-- A format as it is shown. -/
def text (f : ImageFormat) : String :=
  f.order.name ++ "/" ++ f.type.name

theorem pixelSize_pos (f : ImageFormat) : 0 < f.pixelSize := by
  rcases f with ⟨o, t⟩
  cases o <;> cases t <;> decide

end ImageFormat

/-- Whether an image was asked for as a row or as a rectangle. -/
inductive Dimension where
  | one | two
  deriving DecidableEq, Repr

/-- The extent of an image. A height of zero stands for a single row. -/
structure ImageDesc where
  dimension : Dimension
  width : Nat
  height : Nat
  deriving DecidableEq, Repr

namespace ImageDesc

/-- The extent of a width and a height; up to one row makes a row. -/
def ofSize (width height : Nat) : ImageDesc :=
  if height ≤ 1 then ⟨.one, width, 1⟩ else ⟨.two, width, height⟩

/-- The number of rows. -/
def rows (d : ImageDesc) : Nat :=
  max d.height 1

/-- The number of pixels in each of the three directions. -/
def region (d : ImageDesc) : Nat × Nat × Nat :=
  (d.width, d.rows, 1)

/-- The number of bytes of all pixels, without a bound. -/
def exactSize (d : ImageDesc) (f : ImageFormat) : Nat :=
  d.width * d.rows * f.pixelSize

/-- The number of bytes of all pixels, capped after each product. -/
def byteSize (d : ImageDesc) (f : ImageFormat) : Nat :=
  cap (cap (d.width * d.rows) * f.pixelSize)

theorem byteSize_eq_cap (d : ImageDesc) (f : ImageFormat) :
    d.byteSize f = cap (d.exactSize f) :=
  cap_cap_mul _ f.pixelSize_pos

@[simp] theorem width_ofSize (width height : Nat) : (ofSize width height).width = width := by
  unfold ofSize
  split <;> rfl

@[simp] theorem rows_ofSize (width height : Nat) : (ofSize width height).rows = max height 1 := by
  unfold ofSize rows
  split
  · simp only
    omega
  · rfl

theorem exactSize_ofSize (width height : Nat) (f : ImageFormat) :
    (ofSize width height).exactSize f = width * max height 1 * f.pixelSize := by
  rw [exactSize, width_ofSize, rows_ofSize]

theorem exactSize_eq_zero {d : ImageDesc} {f : ImageFormat} (h : d.width = 0) :
    d.exactSize f = 0 := by
  rw [exactSize, h, Nat.zero_mul, Nat.zero_mul]

end ImageDesc

end DriverBench.Device
