import DriverBench.Raster.Checksum
import DriverBench.Raster.Deflate.Reading
/-!
# Compressed data

Data in the zlib format: a header, blocks that are stored or compressed with prefix codes, and a
checksum. All three kinds of blocks are read; stored blocks are written.
-/

namespace DriverBench.Raster.Deflate

/-- Reads data that comes in parts, up to `limit` bytes. Reading is over with the checksum, which
is not compared, or once there are so many bytes; what follows is not looked at. -/
def read (limit : Nat) (parts : List (List UInt8)) : Option (List UInt8) :=
  (Reading.feedAll limit {} parts).map Array.toList

/-- Two bytes of a number, the low one first. -/
def littleEndian16 (n : Nat) : List UInt8 :=
  [n.toUInt8, (n / 256).toUInt8]

/-- The most bytes of a stored block. -/
def storedLimit : Nat := 65535

/-- Stored blocks that hold bytes; the last one may be empty. -/
def storedBlocks (bytes : List UInt8) : List UInt8 :=
  if _h : storedLimit < bytes.length then
    0 :: littleEndian16 storedLimit ++ littleEndian16 0 ++ bytes.take storedLimit ++
      storedBlocks (bytes.drop storedLimit)
  else
    1 :: littleEndian16 bytes.length ++ littleEndian16 (storedLimit - bytes.length) ++ bytes
termination_by bytes.length
decreasing_by
  simp only [List.length_drop, storedLimit] at *
  omega

/-- Writes data in the zlib format. -/
def write (bytes : List UInt8) : List UInt8 :=
  [0x78, 0x01] ++ storedBlocks bytes ++ bigEndian32 (adler32 bytes)

end DriverBench.Raster.Deflate
