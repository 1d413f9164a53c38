import DriverBench.Raster.Deflate.Item
/-!
# Reading compressed data

Data in the zlib format comes in parts. A reading holds the bytes so far and where it stands; each
part takes it as far as the bits go. No more than a given number of bytes is wanted: what goes
beyond is left out, and once there are so many, reading is over.
-/

namespace DriverBench.Raster.Deflate

/-- Where a reading stands. -/
inductive Stage where
  /-- Before the header of the format. -/
  | opening
  /-- At the beginning of a block. -/
  | heading
  /-- Among the bytes of a stored block, of which some are left. -/
  | stored (last : Bool) (left : Nat)
  /-- Among the items of a compressed block. -/
  | items (last : Bool) (codes : Codes)
  | checksum
  | finished

namespace Stage

/-- What follows a block. -/
def behindBlock (last : Bool) : Stage :=
  if last then .checksum else .heading

/-- A stored block of which some bytes are left. -/
def ofStored (last : Bool) (left : Nat) : Stage :=
  if left = 0 then behindBlock last else .stored last left

/-- Whether nothing follows. -/
def isFinished : Stage → Bool
  | .finished => true
  | _ => false

end Stage

/-- Takes the header of the format off the front of bits. -/
def takeOpening (bits : List Bool) : Except Stop (List Bool) := do
  let (method, bits) ← takeBits 8 bits
  let (flags, bits) ← takeBits 8 bits
  if method % 16 ≠ 8 ∨ 7 < method / 16 then .error .malformed
  if flags / 32 % 2 = 1 ∨ (method * 256 + flags) % 31 ≠ 0 then .error .malformed
  return bits

/-- Takes the number of bytes of a stored block off, which is given twice. -/
def takeStoredLength (bits : List Bool) : Except Stop (Nat × List Bool) := do
  let (length, bits) ← takeBits 16 (alignBits bits)
  let (complement, bits) ← takeBits 16 bits
  if length + complement ≠ 65535 then .error .malformed
  return (length, bits)

/-- The bits of the shortest block. -/
def leastBlock : Nat := 10

/-- Takes the beginning of a block off the front of bits, once there are enough for a block. -/
def takeHeading (bits : List Bool) : Except Stop (Stage × List Bool) := do
  awaitBits leastBlock bits
  let (last, bits) ← takeBits 1 bits
  let (kind, bits) ← takeBits 2 bits
  match kind with
  | 0 =>
    let (length, bits) ← takeStoredLength bits
    return (.ofStored (last = 1) length, bits)
  | 1 => return (.items (last = 1) .standard, bits)
  | 2 =>
    let (codes, bits) ← Codes.read bits
    return (.items (last = 1) codes, bits)
  | _ => .error .malformed

/-- What the next piece of the data says: an item to append, if it is one, where reading stands
behind it, and the bits from there on. -/
structure Piece where
  item : Option Item := none
  stage : Stage
  bits : List Bool

/-- Takes a piece off the front of bits, a bit of them at least. Where no more bytes are wanted,
only a piece without an item is taken. -/
def Stage.take (stage : Stage) (isFull : Bool) (bits : List Bool) : Except Stop Piece := do
  match stage with
  | .opening => return { stage := .heading, bits := ← takeOpening bits }
  | .heading =>
    let (stage, bits) ← takeHeading bits
    return { stage, bits }
  | .stored last left =>
    if isFull then .error .waiting
    let (value, bits) ← takeBits 8 bits
    return { item := some (.literals [value.toUInt8]), stage := ofStored last (left - 1), bits }
  | .items last codes =>
    if isFull then return { stage := behindBlock last, bits := ← codes.takeEnd bits }
    let (item, bits) ← codes.takeItem bits
    return { item, stage := if item.isSome then stage else behindBlock last, bits }
  | .checksum => return { stage := .finished, bits := ← skipBits 32 (alignBits bits) }
  | .finished => .error .waiting

/-- A reading of compressed data. -/
structure Reading where
  stage : Stage := .opening
  /-- The bits that are there and not yet read. -/
  bits : List Bool := []
  out : Array UInt8 := #[]

namespace Reading

/-- Whether there are as many bytes as are wanted. -/
def isFull (limit : Nat) (r : Reading) : Bool :=
  limit ≤ r.out.size

/-- Whether reading is over. -/
def isOver (limit : Nat) (r : Reading) : Bool :=
  r.stage.isFinished || r.isFull limit

/-- The reading behind a piece, with the bytes before it. If there is not enough room for its item,
reading is over. -/
def behind (limit : Nat) (out : Array UInt8) (piece : Piece) : Option Reading :=
  match piece.item with
  | none => some ⟨piece.stage, piece.bits, out⟩
  | some item =>
    let room := limit - out.size
    let stage := if room < item.length then .finished else piece.stage
    (item.appendTo out room).map fun out => ⟨stage, piece.bits, out⟩

/-- Goes on as long as the bits allow it. There is no result if the data are malformed. -/
def run (limit : Nat) : Nat → Reading → Option Reading
  | 0, r => some r
  | steps + 1, r =>
    match r.stage.take (r.isFull limit) r.bits with
    | .ok piece => (behind limit r.out piece).bind (run limit steps)
    | .error .waiting => some r
    | .error .malformed => none

/-- Takes a part of the data in. Each piece has a bit at least, so that the bits bound the steps. -/
def feed (limit : Nat) (r : Reading) (part : List UInt8) : Option Reading :=
  let bits := r.bits ++ bitsOf part
  run limit (bits.length + 1) { r with bits }

/-- Takes parts in until reading is over. There is no result if they end before. -/
def feedAll (limit : Nat) (r : Reading) : List (List UInt8) → Option (Array UInt8)
  | [] => none
  | part :: parts => do
    let r ← r.feed limit part
    if r.isOver limit then return r.out
    feedAll limit r parts

end Reading

end DriverBench.Raster.Deflate
