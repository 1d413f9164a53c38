import DriverBench.Device.Object
import DriverBench.Files.Path
import DriverBench.Raster.Container
/-!
# From picture files to images and back

The extension of a file name tells the kind of picture file. Pictures of three channels become
images of four with full opacity, since images of three are rare on devices; pictures of one or
two channels stay as they are.
-/

namespace DriverBench.Raster

open Device

/-- Why a picture file was not read or written. -/
inductive CodecError where
  | decode (why : String)
  | encode (why : String)
  | tooLarge (width height : Nat)
  | truncated (expected actual : Nat)
  | unsupportedFormat (format : ImageFormat)
  deriving DecidableEq, Repr

/-- The wording of a picture file's failure. -/
def CodecError.message : CodecError → String
  | .decode why => s!"画像を復号できません: {why}"
  | .encode why => s!"画像を符号化できません: {why}"
  | .tooLarge width height => s!"画像 {width}x{height} はファイルに書ける大きさを超えています"
  | .truncated expected actual =>
    s!"画像データが途中で終わっています（必要 {expected} バイト、実際 {actual} バイト）"
  | .unsupportedFormat format =>
    let shown := format.text
    s!"形式 {shown} はこの画像ファイルとして保存できません"

/-- A way to turn files into images and images into files. For files of a kind that is not known
the answer is nothing. -/
structure Codec where
  recognizes : String → Bool
  decode : String → List UInt8 → Except CodecError (Option Image)
  encode : String → ImageFormat → ImageDesc → List UInt8 →
    Except CodecError (Option (List UInt8))

/-- The kinds of picture files. -/
inductive FileKind where
  | png | netpbm
  deriving DecidableEq, Repr

/-- The kind of picture file that a path names. -/
def fileKind? (path : String) : Option FileKind :=
  match (Files.extension? path).map Text.foldCase with
  | some "png" | some "apng" => some .png
  | some "pbm" | some "pgm" | some "ppm" | some "pnm" | some "pam" => some .netpbm
  | _ => none

/-- The image format of a raster's pixels, once three channels have become four. -/
def formatOf (r : Raster) : ImageFormat :=
  match r.order with
  | .r => ⟨.r, r.depth.channelType⟩
  | .ra => ⟨.ra, r.depth.channelType⟩
  | .rgb | .rgba => ⟨.rgba, r.depth.channelType⟩

/-- The pixels of a raster, with full opacity added to three channels. -/
def imageBytes (r : Raster) : List UInt8 :=
  match r.order with
  | .rgb => (pixelsOf r.pixelSize r.bytes).flatMap (· ++ r.depth.full)
  | _ => r.bytes

/-- The image that a raster from a file makes, labelled with the file's name. -/
def imageOfRaster (path : String) (r : Raster) : Image where
  data := ⟨imageBytes r, (Files.fileName? path).getD ""⟩
  format := formatOf r
  desc := .ofSize r.width r.height

/-- The depth of the samples that picture files can hold. -/
def depthOf? : ChannelType → Option Depth
  | .uchar => some .eight
  | .ushort => some .sixteen
  | _ => none

/-- The raster of an image for a file that keeps all channels. -/
def fullRaster? (format : ImageFormat) (width height : Nat) (pixels : List UInt8) :
    Option Raster :=
  (depthOf? format.type).map fun depth => ⟨width, height, format.order, depth, pixels⟩

/-- The channels that are kept where there is no room for opacity. -/
def opaqueOrder : ChannelOrder → ChannelOrder
  | .r | .ra => .r
  | .rgb | .rgba => .rgb

/-- The raster of an image for a file that keeps no opacity and samples of eight bits only. -/
def opaqueRaster? (format : ImageFormat) (width height : Nat) (pixels : List UInt8) :
    Option Raster :=
  if format.type = .uchar then
    let kept := opaqueOrder format.order
    let bytes := (pixelsOf format.order.channels pixels).flatMap (·.take kept.channels)
    some ⟨width, height, kept, .eight, bytes⟩
  else none

/-- The bound of the sides of a picture. -/
def sideBound : Nat := 0x100000000

/-- The pixels of an image to be written, if its size can be written and all of them are there. -/
def pixelsToWrite (format : ImageFormat) (desc : ImageDesc) (bytes : List UInt8) :
    Except CodecError (List UInt8) :=
  let size := desc.exactSize format
  if sideBound ≤ desc.width ∨ sideBound ≤ desc.rows ∨ sizeBound ≤ size then
    .error (.tooLarge desc.width desc.rows)
  else if bytes.length < size then .error (.truncated size bytes.length)
  else .ok (bytes.take size)

namespace Codec

/-- The raster that a file of a kind holds for an image. -/
def rasterFor? : FileKind → ImageFormat → Nat → Nat → List UInt8 → Option Raster
  | .png => fullRaster?
  | .netpbm => opaqueRaster?

/-- The codec that reads and writes the two kinds of picture files through their containers. -/
def ofContainers (png netpbm : Container) : Codec where
  recognizes path := (fileKind? path).isSome
  decode path bytes :=
    match fileKind? path with
    | none => .ok none
    | some kind =>
      let container := match kind with
        | .png => png
        | .netpbm => netpbm
      match container.read bytes with
      | .error why => .error (.decode why)
      | .ok r => .ok (some (imageOfRaster path r))
  encode path format desc bytes :=
    match fileKind? path with
    | none => .ok none
    | some kind => do
      let pixels ← pixelsToWrite format desc bytes
      let container := match kind with
        | .png => png
        | .netpbm => netpbm
      match rasterFor? kind format desc.width desc.rows pixels with
      | none => .error (.unsupportedFormat format)
      | some r =>
        match container.write r with
        | .error why => .error (.encode why)
        | .ok written => .ok (some written)

end Codec

end DriverBench.Raster
