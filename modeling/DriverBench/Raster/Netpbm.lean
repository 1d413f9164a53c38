import DriverBench.Number.Binary
import DriverBench.Raster.Container
import DriverBench.Text.Blank
import DriverBench.Text.Utf8
/-!
# Netpbm files

The seven kinds of Netpbm files, from `P1` to `P7`: bitmaps, graymaps and pixmaps, each in decimal
text or in bytes, and arbitrary maps with a header of named lines. Samples are scaled to the full
range of their depth. Of these kinds, graymaps and pixmaps in bytes are written.
-/

namespace DriverBench.Raster.Netpbm

open Device Number

/-- The byte of an ASCII character. -/
def byte (c : Char) : UInt8 := c.toNat.toUInt8

/-- The bytes that divide words of a header and samples in text. -/
def isSpace (b : UInt8) : Bool :=
  (9 ≤ b && b ≤ 13) || b == 32

/-- Bytes that are ASCII, as text. -/
def asciiText (bytes : List UInt8) : List Char :=
  bytes.map fun b => Char.ofNat b.toNat

/-- Numbers in a header are below this bound. -/
def headerBound : Nat := 0x100000000

/-- Reads a number below a bound in decimal digits. -/
def readNumber (bound : Nat) (digits : List Char) : Except String Nat :=
  let value := digits.foldl (fun n d => n * 10 + (d.toNat - '0'.toNat)) 0
  if !digits.isEmpty && digits.all Char.isDigit && value < bound then .ok value
  else .error "not a number in range"

/-- Reads a number below a bound in decimal digits that may follow a plus sign. -/
def readSignedNumber (bound : Nat) : List Char → Except String Nat
  | '+' :: digits => readNumber bound digits
  | digits => readNumber bound digits

/-- Reads a word of a header, collected in reverse, and one space behind it. A number sign hides
what follows up to the end of its line, the end included; `shown` tells whether bytes show. -/
def headerWord (shown : Bool) (word : List UInt8) : List UInt8 →
    Except String (List UInt8 × List UInt8)
  | [] => if word.isEmpty then .error "unexpected end of file" else .ok (word.reverse, [])
  | b :: rest =>
    if shown && b != byte '#' then
      if isSpace b then
        if word.isEmpty then headerWord true word rest else .ok (word.reverse, rest)
      else if 128 ≤ b then .error "a byte that is not ASCII in the header"
      else headerWord true (b :: word) rest
    else headerWord (b == 10 || b == 13) word rest

/-- Reads a number of a header. -/
def headerNumber (bytes : List UInt8) : Except String (Nat × List UInt8) := do
  let (word, rest) ← headerWord true [] bytes
  let value ← readNumber headerBound (asciiText word)
  return (value, rest)

/-- How the samples are stored. -/
inductive Encoding where
  | text | binary
  deriving DecidableEq, Repr

/-- How the values of samples are stored. -/
inductive Samples where
  /-- One bit for a sample; a set bit is black. -/
  | bits
  /-- One byte for a sample, which is zero or one. -/
  | flags
  | bytes
  /-- Two bytes for a sample, the high one first. -/
  | words
  deriving DecidableEq, Repr

/-- What a header says. -/
structure Header where
  encoding : Encoding
  samples : Samples
  order : ChannelOrder
  width : Nat
  height : Nat
  largest : Nat

/-- The way samples up to a largest value are stored. -/
def samplesUpTo (largest : Nat) : Except String Samples :=
  if largest = 0 then .error "the largest sample is zero"
  else if largest ≤ 255 then .ok .bytes
  else if largest ≤ 65535 then .ok .words
  else .error "the largest sample is too large"

/-- Reads the header of a bitmap. -/
def bitmapHeader (encoding : Encoding) (bytes : List UInt8) :
    Except String (Header × List UInt8) := do
  let (width, bytes) ← headerNumber bytes
  let (height, bytes) ← headerNumber bytes
  return (⟨encoding, .bits, .r, width, height, 1⟩, bytes)

/-- Reads the header of a graymap or a pixmap. -/
def mapHeader (order : ChannelOrder) (encoding : Encoding) (bytes : List UInt8) :
    Except String (Header × List UInt8) := do
  let (width, bytes) ← headerNumber bytes
  let (height, bytes) ← headerNumber bytes
  let (largest, bytes) ← headerNumber bytes
  let samples ← samplesUpTo largest
  return (⟨encoding, samples, order, width, height, largest⟩, bytes)

/-- The lines of an arbitrary map's header that were read so far. -/
structure NamedLines where
  width : Option Nat := none
  height : Option Nat := none
  depth : Option Nat := none
  largest : Option Nat := none
  tuple : Option String := none

/-- Reads a number for a line that may occur once. -/
def onceNumber (old : Option Nat) (value : List Char) : Except String (Option Nat) :=
  if old.isSome then .error "a header line occurs twice"
  else (readSignedNumber headerBound (Text.trimWhere Text.isWhiteSpace value)).map some

/-- Takes a line of an arbitrary map's header in. -/
def NamedLines.add (h : NamedLines) (name : String) (value : List Char) :
    Except String NamedLines :=
  match name with
  | "WIDTH" => return { h with width := ← onceNumber h.width value }
  | "HEIGHT" => return { h with height := ← onceNumber h.height value }
  | "DEPTH" => return { h with depth := ← onceNumber h.depth value }
  | "MAXVAL" => return { h with largest := ← onceNumber h.largest value }
  | "TUPLTYPE" =>
    let text := String.ofList (Text.trimWhere Text.isWhiteSpace value)
    .ok { h with tuple := some (match h.tuple with
      | some old => old ++ " " ++ text
      | none => text) }
  | _ => .error "an unknown header line"

/-- Reads the named lines of a header up to its end. A line that starts with a number sign is a
comment; one that starts with a space has no name. -/
def namedLines : Nat → NamedLines → List UInt8 → Except String (NamedLines × List UInt8)
  | 0, _, _ => .error "unexpected end of the header"
  | lines + 1, h, bytes => do
    if bytes.isEmpty then .error "unexpected end of the header"
    let line := bytes.takeWhile (· != 10)
    let rest := bytes.drop (line.length + 1)
    match Text.decode? line with
    | none => .error "a header line is no text"
    | some cs =>
      if cs.head? = some '#' then namedLines lines h rest
      else if cs.any (128 ≤ ·.toNat) then .error "a header line is not ASCII"
      else
        let name := cs.takeWhile fun c => !Text.isWhiteSpace c
        if name = "ENDHDR".toList then .ok (h, rest)
        else
          namedLines lines (← h.add (String.ofList name) (cs.drop name.length)) rest

/-- The channels and samples that an arbitrary map has: from its tuple type, which must agree with
its depth and largest sample, or from its depth alone. A graymap of depth zero has a sample of two
bytes for each pixel. -/
def tupleLayout (tuple : Option String) (depth largest : Nat) :
    Except String (ChannelOrder × Samples) :=
  if largest = 0 then .error "the largest sample is zero"
  else
    match tuple, depth with
    | none, 1 => .ok (.r, .bytes)
    | none, 2 => .ok (.ra, .bytes)
    | none, 3 => .ok (.rgb, .bytes)
    | none, 4 => .ok (.rgba, .bytes)
    | some "BLACKANDWHITE", 1 => if largest = 1 then .ok (.r, .flags) else mismatch
    | some "BLACKANDWHITE_ALPHA", 2 => if largest = 1 then .ok (.ra, .flags) else mismatch
    | some "GRAYSCALE", 1 => (samplesUpTo largest).map ((.r, ·))
    | some "GRAYSCALE", 0 => if largest ≤ 65535 then .ok (.r, .words) else mismatch
    | some "GRAYSCALE_ALPHA", 2 => (samplesUpTo largest).map ((.ra, ·))
    | some "RGB", 3 => (samplesUpTo largest).map ((.rgb, ·))
    | some "RGB_ALPHA", 4 => (samplesUpTo largest).map ((.rgba, ·))
    | _, _ => mismatch
where
  mismatch : Except String (ChannelOrder × Samples) :=
    .error "tuple type, depth and largest sample do not agree"

/-- Reads the header of an arbitrary map. -/
def arbitraryHeader (bytes : List UInt8) : Except String (Header × List UInt8) := do
  match bytes with
  | 10 :: rest =>
    let (h, rest) ← namedLines rest.length {} rest
    match h.height, h.width, h.depth, h.largest with
    | some height, some width, some depth, some largest =>
      let (order, samples) ← tupleLayout h.tuple depth largest
      return (⟨.binary, samples, order, width, height, largest⟩, rest)
    | _, _, _, _ => .error "a header line is missing"
  | _ => .error "no line end behind the magic number"

/-- Reads the magic number and the header behind it. -/
def readHeader : List UInt8 → Except String (Header × List UInt8)
  | 80 :: 49 :: rest => bitmapHeader .text rest
  | 80 :: 50 :: rest => mapHeader .r .text rest
  | 80 :: 51 :: rest => mapHeader .rgb .text rest
  | 80 :: 52 :: rest => bitmapHeader .binary rest
  | 80 :: 53 :: rest => mapHeader .r .binary rest
  | 80 :: 54 :: rest => mapHeader .rgb .binary rest
  | 80 :: 55 :: rest => arbitraryHeader rest
  | _ => .error "no magic number"

/-- The depth of the samples once they are read. -/
def Samples.depth : Samples → Depth
  | .words => .sixteen
  | _ => .eight

/-- The bits of a byte, the highest one first. -/
def bitsOf (b : UInt8) : List Bool :=
  [128, 64, 32, 16, 8, 4, 2, 1].map fun weight => b.toNat / weight % 2 == 1

/-- The number of bytes of a row of bits. -/
def bitRowBytes (width : Nat) : Nat := (width + 7) / 8

/-- The samples of a bitmap in bytes: each row starts a new byte. -/
def bitSamples (width height : Nat) (bytes : List UInt8) : List Nat :=
  (pixelsOf (bitRowBytes width) bytes).take height |>.flatMap fun row =>
    ((row.flatMap bitsOf).take width).map fun bit => if bit then 0 else 1

/-- Reads `count` samples in decimal text, collected in reverse. -/
def textSamples (bound : Nat) : Nat → List Nat → List UInt8 → Except String (List Nat)
  | 0, samples, _ => .ok samples.reverse
  | count + 1, samples, bytes => do
    let bytes := bytes.dropWhile isSpace
    let word := bytes.takeWhile fun b => !isSpace b
    if word.any (128 ≤ ·) then .error "a sample is not ASCII"
    let value ← readNumber bound (asciiText word)
    textSamples bound count (value :: samples) (bytes.drop (word.length + 1))

/-- Reads `count` bits in text, collected in reverse: spaces between them are optional, and a one
is black. -/
def textBits : Nat → List Nat → List UInt8 → Except String (List Nat)
  | 0, samples, _ => .ok samples.reverse
  | count + 1, samples, bytes =>
    match bytes.dropWhile isSpace with
    | 48 :: rest => textBits count (1 :: samples) rest
    | 49 :: rest => textBits count (0 :: samples) rest
    | [] => .error "unexpected end of file"
    | _ => .error "neither zero nor one"

/-- The numbers that pairs of bytes denote, the high byte first. -/
def wordSamples (bytes : List UInt8) : List Nat :=
  (pixelsOf 2 bytes).map fun pair => pair.foldl (fun n b => n * 256 + b.toNat) 0

/-- The number of bytes that the samples of a binary file take. -/
def Header.rasterBytes (h : Header) : Nat :=
  match h.samples with
  | .bits => bitRowBytes h.width * h.height
  | .flags | .bytes => h.width * h.height * h.order.channels
  | .words => h.width * h.height * h.order.channels * 2

/-- Reads the samples behind a header. -/
def readSamples (h : Header) (bytes : List UInt8) : Except String (List Nat) := do
  let count := h.width * h.height * h.order.channels
  match h.encoding with
  | .text =>
    match h.samples with
    | .bits => textBits count [] bytes
    | .words => textSamples 0x10000 count [] bytes
    | _ => textSamples 0x100 count [] bytes
  | .binary =>
    let raster := bytes.take h.rasterBytes
    if raster.length < h.rasterBytes then .error "unexpected end of file"
    match h.samples with
    | .bits => return bitSamples h.width h.height raster
    | .words => return wordSamples raster
    | .bytes => return raster.map (·.toNat)
    | .flags =>
      let samples := raster.map (·.toNat)
      if samples.any (1 < ·) then .error "a sample is out of range" else return samples

/-- The value of a quotient in single precision, as a fraction. -/
def single (num den : Nat) : Nat × Nat :=
  BinaryFormat.single.fraction (BinaryFormat.single.roundMagnitude num den)

/-- A sample scaled from its largest value to the full range, in single precision: the factor and
the product are rounded, and so is the result, with halves away from zero. -/
def scale (largest full sample : Nat) : Nat :=
  if largest = full then sample
  else
    let (largestNum, largestDen) := single largest 1
    let (num, den) := single (full * largestDen) largestNum
    let (num, den) := single (sample * num) den
    min ((2 * num + den) / (2 * den)) full

/-- The largest value of samples of a depth. -/
def fullRange : Depth → Nat
  | .eight => 255
  | .sixteen => 65535

/-- The bytes of a sample, the low one first. -/
def sampleBytes : Depth → Nat → List UInt8
  | .eight, n => [n.toUInt8]
  | .sixteen, n => [n.toUInt8, (n / 256).toUInt8]

/-- Reads a Netpbm file. -/
def read (bytes : List UInt8) : Except String Raster := do
  let (h, rest) ← readHeader bytes
  let depth := h.samples.depth
  if readLimit < h.width * h.height * h.order.channels * depth.width then
    .error "the picture is too large"
  let samples ← readSamples h rest
  let full := fullRange depth
  let scaled := samples.flatMap fun s => sampleBytes depth (scale h.largest full s)
  return ⟨h.width, h.height, h.order, depth, scaled⟩

/-- Writes a graymap or a pixmap in bytes. -/
def write (r : Raster) : Except String (List UInt8) :=
  match r.order, r.depth with
  | .r, .eight => .ok (heading "P5" ++ r.bytes)
  | .rgb, .eight => .ok (heading "P6" ++ r.bytes)
  | _, _ => .error "neither a graymap nor a pixmap of eight bits"
where
  heading (magic : String) : List UInt8 :=
    Text.bytesOf s!"{magic}\n{r.width} {r.height} 255\n"

/-- Netpbm files. -/
def container : Container := ⟨read, write⟩

end DriverBench.Raster.Netpbm
