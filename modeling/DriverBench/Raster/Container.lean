import DriverBench.Device.Image
/-!
# Picture files

A picture file holds a *raster*: a rectangle of pixels with one, two, three or four channels of
eight or sixteen bits. A container is a way to read rasters from bytes and to write them as bytes.
-/

namespace DriverBench

open Device

namespace Raster

/-- The number of bits of a sample. -/
inductive Depth where
  | eight | sixteen
  deriving DecidableEq, Repr

namespace Depth

/-- The number of bytes of a sample. -/
def width : Depth → Nat
  | .eight => 1
  | .sixteen => 2

/-- The largest sample, as bytes. -/
def full : Depth → List UInt8
  | .eight => [255]
  | .sixteen => [255, 255]

/-- The channel type of samples of a depth. -/
def channelType : Depth → ChannelType
  | .eight => .uchar
  | .sixteen => .ushort

end Depth

end Raster

/-- The pixels of a picture file, row by row. Sixteen-bit samples have their low byte first. -/
structure Raster where
  width : Nat
  height : Nat
  order : ChannelOrder
  depth : Raster.Depth
  bytes : List UInt8
  deriving DecidableEq, Repr

namespace Raster

/-- The number of bytes of a pixel. -/
def pixelSize (r : Raster) : Nat :=
  r.order.channels * r.depth.width

/-- Whether there are exactly as many bytes as the pixels take. -/
def WellFormed (r : Raster) : Prop :=
  r.bytes.length = r.width * r.height * r.pixelSize

/-- Cuts bytes into pieces of one length; a remainder is dropped. -/
def pixelsOf (size : Nat) (bytes : List UInt8) : List (List UInt8) :=
  if _h : size = 0 ∨ (bytes.take size).length < size then []
  else bytes.take size :: pixelsOf size (bytes.drop size)
termination_by bytes.length
decreasing_by
  simp only [List.length_take, List.length_drop] at *
  omega

/-- Pictures that would take more bytes than this are not read. -/
def readLimit : Nat := 0x40000000

/-- A kind of picture file. A failure says why in words. -/
structure Container where
  read : List UInt8 → Except String Raster
  write : Raster → Except String (List UInt8)

end Raster

end DriverBench
