/-!
# Checksums

The two checksums of PNG files: the cyclic redundancy check of a chunk, and Adler's of compressed
data.
-/

namespace DriverBench.Raster

/-- One bit of the cyclic redundancy check. -/
def crcBit (crc : UInt32) : UInt32 :=
  if crc % 2 == 1 then (crc / 2) ^^^ 0xEDB88320 else crc / 2

/-- One byte of the cyclic redundancy check. -/
def crcByte (crc : UInt32) (b : UInt8) : UInt32 :=
  (List.range 8).foldl (fun c _ => crcBit c) (crc ^^^ b.toUInt32)

/-- The cyclic redundancy check of bytes. -/
def crc32 (bytes : List UInt8) : UInt32 :=
  ~~~(bytes.foldl crcByte 0xFFFFFFFF)

/-- Adler's checksum of bytes. -/
def adler32 (bytes : List UInt8) : Nat :=
  let (a, b) := bytes.foldl (fun (a, b) x =>
    let a := (a + x.toNat) % 65521
    (a, (b + a) % 65521)) (1, 0)
  b * 65536 + a

/-- The four bytes of a number, the high one first. -/
def bigEndian32 (n : Nat) : List UInt8 :=
  [(n / 0x1000000).toUInt8, (n / 0x10000).toUInt8, (n / 0x100).toUInt8, n.toUInt8]

/-- The number that bytes denote, the high one first. -/
def ofBigEndian (bytes : List UInt8) : Nat :=
  bytes.foldl (fun n b => n * 256 + b.toNat) 0

end DriverBench.Raster
