import DriverBench.Simulator.State
/-!
# Buffers and images of the simulator

Memory is a sequence of bytes. An operation on a rectangle of an image works row by row: the
rectangle is a list of stretches of the bytes, all of one length.
-/

namespace DriverBench.Simulator

open Device

/-- Reservations of this many bytes or more fail, and smaller ones go through, however much has been
reserved before. That is one host among many: the most permissive one on which a reservation of
`2 ^ 62` bytes fails. -/
def allocationLimit : Nat := 0x4000000000000000

/-- Bytes that are all zero, if so many can be had. -/
def zeroed (call : String) (size : Nat) : Call (List UInt8) :=
  if allocationLimit ≤ size then fail call .outOfHostMemory else pure (List.replicate size 0)

/-- The stretch of `length` bytes from `start` on. -/
def slice (bytes : List UInt8) (start length : Nat) : List UInt8 :=
  (bytes.drop start).take length

/-- The bytes with those from `start` on replaced by a chunk. -/
def overwrite (bytes : List UInt8) (start : Nat) (chunk : List UInt8) : List UInt8 :=
  bytes.take start ++ chunk ++ bytes.drop (start + chunk.length)

/-- A place in an image: column, row and layer. -/
abbrev Origin := Nat × Nat × Nat

/-- The extent of a part of an image: columns, rows and layers. -/
abbrev Region := Nat × Nat × Nat

/-- What the simulator keeps for a memory object. -/
def storageOf (m : Memory) : Call Storage := do
  orFail ((← get).memories.get? m.handle.id) "clGetMemObjectInfo" .invalidMemObject

/-- Replaces the bytes of a memory object. -/
def putBytes (m : Memory) (bytes : List UInt8) : Call Unit :=
  modify fun s =>
    { s with memories := s.memories.modify m.handle.id fun e => { e with bytes } }

/-- Checks that a stretch of bytes lies in a buffer. -/
def checkRange (e : Storage) (offset length : Nat) : Call Unit :=
  if e.image.isSome then fail "clEnqueueBuffer" .invalidMemObject
  else if offset + length ≤ e.bytes.length then pure ()
  else fail "clEnqueueBuffer" .invalidValue

/-- The format and extent of an image. -/
def imageOf (e : Storage) : Call (ImageFormat × ImageDesc) :=
  orFail e.image "clEnqueueImage" .invalidMemObject

/-- Whether a rectangle is not empty and lies in an image. -/
def fits (desc : ImageDesc) (origin : Origin) (region : Region) : Bool :=
  origin.1 + region.1 ≤ desc.width && origin.2.1 + region.2.1 ≤ desc.rows &&
    origin.2.2 == 0 && region.2.2 == 1 && region.1 != 0 && region.2.1 != 0

/-- The starts of the rows of a rectangle, and their common length, in bytes. -/
def rowsOf (format : ImageFormat) (desc : ImageDesc) (origin : Origin) (region : Region) :
    List Nat × Nat :=
  let pitch := desc.width * format.pixelSize
  ((List.range region.2.1).map fun row =>
    (origin.2.1 + row) * pitch + origin.1 * format.pixelSize, region.1 * format.pixelSize)

/-- The rows of a rectangle, if it lies in the image. -/
def checkedRows (format : ImageFormat) (desc : ImageDesc) (origin : Origin) (region : Region) :
    Call (List Nat × Nat) :=
  if fits desc origin region then pure (rowsOf format desc origin region)
  else fail "clEnqueueImage" .invalidValue

/-- The stretches of `length` bytes at each start, in order. -/
def gather (bytes : List UInt8) (length : Nat) (starts : List Nat) : List (List UInt8) :=
  starts.map fun start => slice bytes start length

/-- Puts one chunk at each start. -/
def scatter (bytes : List UInt8) : List Nat → List (List UInt8) → List UInt8
  | start :: starts, chunk :: chunks => scatter (overwrite bytes start chunk) starts chunks
  | _, _ => bytes

/-- Data cut into `count` chunks of one length. -/
def chunksOf (length : Nat) : Nat → List UInt8 → List (List UInt8)
  | 0, _ => []
  | count + 1, data => data.take length :: chunksOf length count (data.drop length)

/-- Creates a buffer that holds zeros. -/
def createBuffer (size : Nat) : Call Memory := do
  if size = 0 then fail "clCreateBuffer" .invalidBufferSize
  let bytes ← zeroed "clCreateBuffer" size
  let handle ← allocate .buffer
  modify fun s => { s with memories := s.memories.insert handle.id ⟨bytes, none⟩ }
  return .ofBuffer handle size

/-- Writes bytes into a buffer. -/
def writeBuffer (m : Memory) (offset : Nat) (data : List UInt8) : Call Unit := do
  let target ← storageOf m
  checkRange target offset data.length
  putBytes m (overwrite target.bytes offset data)

/-- Reads bytes of a buffer. -/
def readBuffer (m : Memory) (offset length : Nat) : Call (List UInt8) := do
  let source ← storageOf m
  checkRange source offset length
  return slice source.bytes offset length

/-- Copies bytes between buffers, or within one: what is written was there before the call. -/
def copyBuffer (src dst : Memory) (srcOffset dstOffset length : Nat) : Call Unit := do
  let source ← storageOf src
  checkRange source srcOffset length
  let target ← storageOf dst
  checkRange target dstOffset length
  putBytes dst (overwrite target.bytes dstOffset (slice source.bytes srcOffset length))

/-- Creates an image, from data that must suffice for it or filled with zeros. -/
def createImage (format : ImageFormat) (desc : ImageDesc) (data : Option (List UInt8)) :
    Call Memory := do
  let size := desc.byteSize format
  if desc.width = 0 ∨ size = 0 then fail "clCreateImage" .invalidImageSize
  if data.any (·.length < size) then fail "clCreateImage" .invalidValue
  let zeros ← zeroed "clCreateImage" size
  let bytes := match data with
    | some d => d.take size
    | none => zeros
  let handle ← allocate .image
  modify fun s =>
    { s with memories := s.memories.insert handle.id ⟨bytes, some (format, desc)⟩ }
  return .ofImage handle format desc

/-- Writes pixels into a rectangle of an image, row by row. -/
def writeImage (m : Memory) (origin : Origin) (region : Region) (data : List UInt8) :
    Call Unit := do
  let target ← storageOf m
  let (format, desc) ← imageOf target
  let (starts, length) ← checkedRows format desc origin region
  if data.length < starts.length * length then fail "clEnqueueWriteImage" .invalidValue
  putBytes m (scatter target.bytes starts (chunksOf length starts.length data))

/-- Reads the pixels of a rectangle, row by row, to the front of an output buffer. The rest of the
buffer stays. -/
def readImage (m : Memory) (origin : Origin) (region : Region) (out : List UInt8) :
    Call (List UInt8) := do
  let source ← storageOf m
  let (format, desc) ← imageOf source
  let (starts, length) ← checkedRows format desc origin region
  if out.length < starts.length * length then fail "clEnqueueReadImage" .invalidValue
  return overwrite out 0 (gather source.bytes length starts).flatten

/-- Copies a rectangle between images of one format, or within one image: what is written was
there before the call. -/
def copyImage (src dst : Memory) (srcOrigin dstOrigin : Origin) (region : Region) :
    Call Unit := do
  let source ← storageOf src
  let (srcFormat, srcDesc) ← imageOf source
  let (srcStarts, length) ← checkedRows srcFormat srcDesc srcOrigin region
  let chunks := gather source.bytes length srcStarts
  let target ← storageOf dst
  let (dstFormat, dstDesc) ← imageOf target
  if dstFormat ≠ srcFormat then fail "clEnqueueCopyImage" .invalidImageFormatDescriptor
  let (dstStarts, _) ← checkedRows dstFormat dstDesc dstOrigin region
  putBytes dst (scatter target.bytes dstStarts chunks)

end DriverBench.Simulator
