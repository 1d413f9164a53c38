import DriverBench.Raster.Checksum
import DriverBench.Raster.Container
import DriverBench.Raster.Deflate
/-!
# PNG files

A PNG file is a signature and a sequence of chunks. The chunks that matter are the header, the
palette, the transparency and the compressed rows of samples, each row filtered by the one above
it. What is read is given with eight or sixteen bits for a sample, palettes resolved and
transparency as a channel of its own.
-/

namespace DriverBench.Raster.Png

open Device

/-- The first eight bytes of every PNG file. -/
def signature : List UInt8 := [137, 80, 78, 71, 13, 10, 26, 10]

/-- The color types, with the number of samples of a pixel. -/
inductive ColorType where
  | gray | rgb | indexed | grayAlpha | rgba
  deriving DecidableEq, Repr

namespace ColorType

/-- The color type with a number. -/
def ofNumber? : Nat → Option ColorType
  | 0 => some .gray
  | 2 => some .rgb
  | 3 => some .indexed
  | 4 => some .grayAlpha
  | 6 => some .rgba
  | _ => none

/-- The number of samples of a pixel. -/
def samples : ColorType → Nat
  | .gray | .indexed => 1
  | .grayAlpha => 2
  | .rgb => 3
  | .rgba => 4

/-- The numbers of bits that a sample may have. -/
def depths : ColorType → List Nat
  | .gray => [1, 2, 4, 8, 16]
  | .indexed => [1, 2, 4, 8]
  | _ => [8, 16]

end ColorType

/-- What the header chunk says. -/
structure Header where
  width : Nat
  height : Nat
  depth : Nat
  color : ColorType
  interlaced : Bool

/-- Reads the content of the header chunk. -/
def readHeader (content : List UInt8) : Except String Header := do
  if content.length ≠ 13 then .error "the header does not have its size"
  let width := ofBigEndian (content.take 4)
  let height := ofBigEndian ((content.drop 4).take 4)
  match (content.drop 8).map (·.toNat) with
  | depth :: color :: method :: filter :: interlace :: _ =>
    match ColorType.ofNumber? color with
    | none => .error "an unknown color type"
    | some color =>
      if !color.depths.contains depth then .error "a depth that the color type does not have"
      if width = 0 ∨ height = 0 then .error "an empty picture"
      if method ≠ 0 ∨ filter ≠ 0 ∨ 1 < interlace then .error "an unknown method"
      return ⟨width, height, depth, color, interlace == 1⟩
  | _ => .error "the header is too short"

/-- A chunk: its type, its content and whether its checksum is right. -/
structure Chunk where
  type : List UInt8
  content : List UInt8
  intact : Bool

/-- The type of a chunk, by its four letters. -/
def chunkType (letters : String) : List UInt8 :=
  letters.toList.map fun c => c.toNat.toUInt8

/-- Whether a chunk may not be left out: its type starts with a capital letter. -/
def Chunk.isCritical (c : Chunk) : Bool :=
  c.type.head?.any (·.toNat / 32 % 2 == 0)

/-- Whether a chunk is of the type with four letters. -/
def Chunk.is (c : Chunk) (letters : String) : Bool :=
  c.type == chunkType letters

/-- Takes a chunk off the front of bytes. -/
def takeChunk (bytes : List UInt8) : Option (Chunk × List UInt8) :=
  let length := ofBigEndian (bytes.take 4)
  let body := bytes.drop 4
  if bytes.length < length + 12 then none
  else
    let type := body.take 4
    let content := (body.drop 4).take length
    let check := (body.drop (4 + length)).take 4
    let intact := (crc32 (type ++ content)).toNat == ofBigEndian check
    some (⟨type, content, intact⟩, body.drop (8 + length))

/-- Takes a chunk off the front of bytes; one that may not be left out must be intact. -/
def takeSoundChunk (bytes : List UInt8) : Except String (Chunk × List UInt8) :=
  match takeChunk bytes with
  | none => .error "unexpected end of file"
  | some (c, rest) =>
    if c.isCritical && !c.intact then .error "a wrong checksum" else .ok (c, rest)

/-- The least and the greatest length that the content of a chunk may have. -/
def chunkLengths : List (String × Nat × Nat) :=
  [("IHDR", 13, 13), ("PLTE", 3, 768), ("tRNS", 1, 256), ("bKGD", 1, 6), ("cICP", 4, 4),
    ("fcTL", 26, 26)]

/-- Whether the content of a chunk has a length that its type allows. -/
def Chunk.hasLength (c : Chunk) : Bool :=
  chunkLengths.all fun (letters, least, greatest) =>
    !c.is letters || (least ≤ c.content.length && c.content.length ≤ greatest)

/-- What the chunks before the picture's rows say. -/
structure Setting where
  header : Header
  palette : Option (List UInt8) := none
  transparency : Option (List UInt8) := none
  /-- The number of controls of an animation's frames, which is the number of the next one. -/
  frames : Nat := 0
  /-- Whether the coding of colors is known. -/
  isCoded : Bool := false

namespace Setting

/-- Takes a palette in; there is one at most. -/
def addPalette (s : Setting) (content : List UInt8) : Except String Setting :=
  if s.palette.isSome then .error "a second palette"
  else .ok { s with palette := some content }

/-- The transparency of a picture, from the content of its chunk: one entry for each entry of a
palette, or the bytes of the samples that are transparent. A chunk that does not suit the picture
counts as none. -/
def transparencyOf? (s : Setting) (content : List UInt8) : Option (List UInt8) :=
  let samples (count : Nat) : Option (List UInt8) :=
    if content.length < 2 * count then none
    else if s.header.depth = 16 then some content
    else some ((pixelsOf 2 (content.take (2 * count))).flatMap (·.drop 1))
  match s.header.color with
  | .gray => samples 1
  | .rgb => samples 3
  | .indexed => if s.palette.isNone then none else some content
  | _ => none

/-- Takes a transparency in; the first one that suits the picture counts. -/
def addTransparency (s : Setting) (content : List UInt8) : Setting :=
  if s.transparency.isSome then s else { s with transparency := s.transparencyOf? content }

/-- Takes the control of an animation's frame in. It has the next number, the frame before the rows
covers the picture, and what happens to it behind its time is known. -/
def addFrame (s : Setting) (content : List UInt8) : Except String Setting := do
  let field (place : Nat) : Nat := ofBigEndian ((content.drop place).take 4)
  if field 0 ≠ s.frames then .error "the controls of the animation are out of order"
  if field 4 ≠ s.header.width ∨ field 8 ≠ s.header.height ∨ field 12 ≠ 0 ∨ field 16 ≠ 0 then
    .error "the frame does not cover the picture"
  match content.drop 24 with
  | dispose :: blend :: _ =>
    if 2 < dispose ∨ 1 < blend then .error "an unknown way to treat the frame"
    return { s with frames := s.frames + 1 }
  | _ => .error "the frame control is too short"

/-- Takes a background in. That of a picture with a palette must stand behind the palette. -/
def addBackground (s : Setting) : Except String Setting :=
  if s.header.color = .indexed ∧ s.palette.isNone then
    .error "the background precedes the palette"
  else .ok s

/-- Takes a coding of colors in; the first one before the palette counts. Samples are red, green
and blue, and whether they use their full range is said. -/
def addCoding (s : Setting) (content : List UInt8) : Except String Setting :=
  if s.isCoded ∨ s.palette.isSome then .ok s
  else if content[2]?.any (· == 0) && content[3]?.any (· ≤ 1) then .ok { s with isCoded := true }
  else .error "an unknown coding of colors"

/-- Takes a chunk in that may be left out. -/
def addAncillary (s : Setting) (c : Chunk) : Except String Setting :=
  if c.is "tRNS" then .ok (s.addTransparency c.content)
  else if c.is "fcTL" then s.addFrame c.content
  else if c.is "bKGD" then s.addBackground
  else if c.is "cICP" then s.addCoding c.content
  else .ok s

/-- Takes a chunk before the picture's rows in. One that may be left out is, when its length or its
checksum is wrong; only the control of a frame must have its length, and the rows of a frame must
not precede those of the picture. -/
def add (s : Setting) (c : Chunk) : Except String Setting :=
  if c.is "IHDR" then .error "a second header"
  else if c.is "IEND" then .error "no picture"
  else if c.is "fdAT" then .error "the rows of a frame precede the picture"
  else if !c.hasLength && (c.isCritical || c.is "fcTL") then .error "a chunk of a wrong length"
  else if c.is "PLTE" then s.addPalette c.content
  else if c.isCritical then .error "an unknown chunk that may not be left out"
  else if c.intact && c.hasLength then s.addAncillary c
  else .ok s

end Setting

/-- Whether bytes begin with a chunk of the picture's rows. -/
def beginsRows (bytes : List UInt8) : Bool :=
  (bytes.drop 4).take 4 == chunkType "IDAT"

/-- Reads chunks up to the first one with rows, whose place is given last. -/
def readSetting : Nat → Setting → List UInt8 → Except String (Setting × List UInt8)
  | 0, _, _ => .error "unexpected end of file"
  | steps + 1, s, bytes => do
    if beginsRows bytes then return (s, bytes)
    let (c, rest) ← takeSoundChunk bytes
    readSetting steps (← s.add c) rest

/-- The compressed rows: the parts in the chunks with rows, which follow one another. Another chunk
must at least begin behind them. -/
def readRows : Nat → List UInt8 → Except String (List (List UInt8))
  | 0, _ => .error "unexpected end of file"
  | steps + 1, bytes => do
    if bytes.length < 8 then .error "unexpected end of file"
    if !beginsRows bytes then return []
    let (c, rest) ← takeSoundChunk bytes
    return c.content :: (← readRows steps rest)

/-- The predictor that of three neighbours chooses the one nearest to their estimate. -/
def paeth (left above corner : Nat) : Nat :=
  let p : Int := left + above - corner
  let a := (p - left).natAbs
  let b := (p - above).natAbs
  let c := (p - corner).natAbs
  if a ≤ b ∧ a ≤ c then left else if b ≤ c then above else corner

/-- What a filter predicts for a byte from its neighbours to the left, above and between. -/
def predict? (filter left above corner : Nat) : Option Nat :=
  match filter with
  | 0 => some 0
  | 1 => some left
  | 2 => some above
  | 3 => some ((left + above) / 2)
  | 4 => some (paeth left above corner)
  | _ => none

/-- Undoes the filter of a row. The bytes so far are given last one first, and so are those of the
row above up to the same place; `size` bytes make up a pixel. -/
def unfilterRow (filter size : Nat) (done passed : List UInt8) :
    List UInt8 → List UInt8 → Option (List UInt8)
  | [], _ => some done.reverse
  | x :: row, above => do
    let b := above.headD 0
    let left := (done[size - 1]?).getD 0
    let corner := (passed[size - 1]?).getD 0
    let predicted ← predict? filter left.toNat b.toNat corner.toNat
    unfilterRow filter size ((x + predicted.toUInt8) :: done) (b :: passed) row (above.drop 1)

/-- Takes `count` rows of `length` bytes, each behind its filter, off the front of samples. -/
def takeRows (length size : Nat) : Nat → List UInt8 → List UInt8 →
    Except String (List (List UInt8) × List UInt8)
  | 0, _, bytes => .ok ([], bytes)
  | count + 1, above, bytes =>
    match bytes with
    | [] => .error "unexpected end of the rows"
    | filter :: rest => do
      let raw := rest.take length
      if raw.length < length then .error "unexpected end of the rows"
      match unfilterRow filter.toNat size [] [] raw above with
      | none => .error "an unknown filter"
      | some row =>
        let (rows, rest) ← takeRows length size count row (rest.drop length)
        return (row :: rows, rest)

/-- The samples of a byte that holds several, the highest one first. -/
def splitByte (depth : Nat) (b : UInt8) : List Nat :=
  (List.range (8 / depth)).map fun i => b.toNat / Nat.pow 2 (8 - depth * (i + 1)) % Nat.pow 2 depth

/-- The samples of a row, as numbers. -/
def rowSamples (depth : Nat) (row : List UInt8) : List Nat :=
  if depth = 16 then (pixelsOf 2 row).map ofBigEndian
  else if depth = 8 then row.map (·.toNat)
  else row.flatMap (splitByte depth)

/-- Cuts the first `count` groups of one length off a list. -/
def groupsOf (size : Nat) : Nat → List Nat → List (List Nat)
  | 0, _ => []
  | count + 1, samples => samples.take size :: groupsOf size count (samples.drop size)

/-- The color of a palette's entry with its opacity; entries that are missing are black. A
transparency with more entries than the palette counts as none. -/
def paletteEntry (palette : List UInt8) (transparency : Option (List UInt8)) (index : Nat) :
    List UInt8 :=
  let color := (palette.drop (3 * index)).take 3
  let color := if color.length = 3 then color else [0, 0, 0]
  match transparency with
  | none => color
  | some alphas =>
    if alphas.length ≤ palette.length / 3 then color ++ [(alphas[index]?).getD 255]
    else color ++ [255]

/-- The bytes of a sample, the low one first. Samples of less than eight bits are spread over the
full range. -/
def sampleBytes (depth : Nat) (sample : Nat) : List UInt8 :=
  if depth = 16 then [sample.toUInt8, (sample / 256).toUInt8]
  else [(sample * (255 / (Nat.pow 2 depth - 1))).toUInt8]

/-- The bytes of a sample as a transparency gives them, the high one first. -/
def keyBytes (depth : Nat) (sample : Nat) : List UInt8 :=
  if depth = 16 then [(sample / 256).toUInt8, sample.toUInt8] else [sample.toUInt8]

/-- The bytes of a full opacity, or of none. -/
def opacity (depth : Nat) (full : Bool) : List UInt8 :=
  List.replicate (if depth = 16 then 2 else 1) (if full then 255 else 0)

/-- The bytes of a pixel as they are given. -/
def pixelBytes (s : Setting) (pixel : List Nat) : List UInt8 :=
  let depth := s.header.depth
  match s.header.color, s.transparency with
  | .indexed, transparency =>
    paletteEntry (s.palette.getD []) transparency (pixel.headD 0)
  | .gray, some key | .rgb, some key =>
    let hidden := pixel.flatMap (keyBytes depth) == key
    pixel.flatMap (sampleBytes depth) ++ opacity depth !hidden
  | _, _ => pixel.flatMap (sampleBytes depth)

/-- The channels of the pixels as they are given. -/
def channelOrder (s : Setting) : ChannelOrder :=
  match s.header.color, s.transparency with
  | .gray, none => .r
  | .gray, some _ | .grayAlpha, _ => .ra
  | .rgb, none | .indexed, none => .rgb
  | .rgb, some _ | .indexed, some _ | .rgba, _ => .rgba

/-- The depth of the samples as they are given. -/
def outputDepth (s : Setting) : Depth :=
  if s.header.depth = 16 then .sixteen else .eight

/-- Part of an interlaced picture: its first column and row, and the steps to the next ones. -/
structure Pass where
  column : Nat
  row : Nat
  columnStep : Nat
  rowStep : Nat

/-- The passes of an interlaced picture, or the single one of a plain picture. -/
def passes (interlaced : Bool) : List Pass :=
  if interlaced then
    [⟨0, 0, 8, 8⟩, ⟨4, 0, 8, 8⟩, ⟨0, 4, 4, 8⟩, ⟨2, 0, 4, 4⟩, ⟨0, 2, 2, 4⟩, ⟨1, 0, 2, 2⟩,
      ⟨0, 1, 1, 2⟩]
  else [⟨0, 0, 1, 1⟩]

/-- How many steps from `first` on lie below `bound`. -/
def stepsBelow (first step bound : Nat) : Nat :=
  (bound - first + step - 1) / step

/-- The pixels of one pass, each with its column and row, put into a grid by their places. -/
def readPass (s : Setting) (pass : Pass) (grid : Array (List UInt8)) (bytes : List UInt8) :
    Except String (Array (List UInt8) × List UInt8) := do
  let h := s.header
  let columns := stepsBelow pass.column pass.columnStep h.width
  let rows := stepsBelow pass.row pass.rowStep h.height
  if columns = 0 ∨ rows = 0 then return (grid, bytes)
  let bits := h.depth * h.color.samples
  let length := (columns * bits + 7) / 8
  let (lines, rest) ← takeRows length (max 1 (bits / 8)) rows [] bytes
  let placed := lines.zipIdx.foldl (fun grid (line, y) =>
    let pixels := groupsOf h.color.samples columns (rowSamples h.depth line)
    pixels.zipIdx.foldl (fun (grid : Array (List UInt8)) (pixel, x) =>
      let place := (pass.row + y * pass.rowStep) * h.width + pass.column + x * pass.columnStep
      grid.setIfInBounds place (pixelBytes s pixel)) grid) grid
  return (placed, rest)

/-- Reads all passes in order. -/
def readPasses (s : Setting) (grid : Array (List UInt8)) (bytes : List UInt8) :
    List Pass → Except String (Array (List UInt8))
  | [] => .ok grid
  | pass :: more => do
    let (grid, rest) ← readPass s pass grid bytes
    readPasses s grid rest more

/-- The number of bytes that the rows of a pass take before compression. Every row has a filter;
that of rows without pixels is counted, too. -/
def Pass.rowBytes (h : Header) (pass : Pass) : Nat :=
  let columns := stepsBelow pass.column pass.columnStep h.width
  stepsBelow pass.row pass.rowStep h.height * (1 + (columns * h.depth * h.color.samples + 7) / 8)

/-- The greatest number of bytes that the rows of a picture take before compression. -/
def Header.rowBytes (h : Header) : Nat :=
  (passes h.interlaced).foldl (fun total pass => total + pass.rowBytes h) 0

/-- The number of bytes that the rows of a picture take before compression, at least. -/
def leastRowBytes (h : Header) : Nat :=
  h.width * h.height * h.depth * h.color.samples / 8

/-- Reads a PNG file. -/
def read (bytes : List UInt8) : Except String Raster := do
  if bytes.take 8 ≠ signature then .error "no signature"
  let (first, rest) ← takeSoundChunk (bytes.drop 8)
  if !first.is "IHDR" then .error "no header"
  let header ← readHeader first.content
  let (s, rest) ← readSetting rest.length { header } rest
  if s.header.color = .indexed ∧ s.palette.isNone then .error "no palette"
  let order := channelOrder s
  let depth := outputDepth s
  if readLimit < header.width * header.height * order.channels * depth.width then
    .error "the picture is too large"
  let compressed ← readRows rest.length rest
  match Deflate.read header.rowBytes compressed with
  | none => .error "broken compressed data"
  | some samples =>
    if samples.length < leastRowBytes header then .error "unexpected end of the rows"
    let grid := Array.replicate (header.width * header.height) []
    let pixels ← readPasses s grid samples (passes header.interlaced)
    return ⟨header.width, header.height, order, depth, pixels.toList.flatten⟩

/-- A chunk as it stands in a file. -/
def chunkBytes (letters : String) (content : List UInt8) : List UInt8 :=
  let type := chunkType letters
  bigEndian32 content.length ++ type ++ content ++ bigEndian32 (crc32 (type ++ content)).toNat

/-- The number of the color type that has given channels. -/
def colorNumber : ChannelOrder → UInt8
  | .r => 0
  | .ra => 4
  | .rgb => 2
  | .rgba => 6

/-- The bytes of samples in the order of the file, which is high byte first. -/
def fileOrder : Depth → List UInt8 → List UInt8
  | .sixteen, low :: high :: rest => high :: low :: fileOrder .sixteen rest
  | _, bytes => bytes

/-- The number of bits of a sample. -/
def depthNumber : Depth → UInt8
  | .eight => 8
  | .sixteen => 16

/-- Writes a PNG file whose rows are not filtered and whose data is stored. -/
def write (r : Raster) : Except String (List UInt8) :=
  if r.width = 0 ∨ r.height = 0 then .error "an empty picture"
  else
    let header := bigEndian32 r.width ++ bigEndian32 r.height ++
      [depthNumber r.depth, colorNumber r.order, 0, 0, 0]
    let rows := pixelsOf (r.width * r.pixelSize) (fileOrder r.depth r.bytes)
    .ok (signature ++ chunkBytes "IHDR" header ++
      chunkBytes "IDAT" (Deflate.write (rows.flatMap (0 :: ·))) ++ chunkBytes "IEND" [])

/-- PNG files. -/
def container : Container := ⟨read, write⟩

end DriverBench.Raster.Png
