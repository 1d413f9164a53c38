import Mathlib.Algebra.Group.Nat.Defs
import DriverBench.Proofs.Raster.Codec
/-!
# When an image cannot be written

There are three reasons why an image does not come to its picture file, and they are looked for in
this order: the file cannot say how large the picture is, bytes are missing, or the file cannot hold
the type of the channels. Each of them is a matter of the image and of the kind of file alone. In
all other cases the container is given a raster of just the bytes that its size, its channels and
its depth ask for (`exists_raster`), and what it answers is what comes of it.
-/

namespace DriverBench.Raster

open Device Simulator

variable {path : String} {format : ImageFormat} {desc : ImageDesc} {bytes : List UInt8}

/-- A picture file cannot say how large the picture is: a side does not fit into 32 bits, or the
number of bytes does not fit into 64. -/
def TooLarge (format : ImageFormat) (desc : ImageDesc) : Prop :=
  2 ^ 32 - 1 < desc.width ∨ 2 ^ 32 - 1 < max desc.height 1 ∨
    2 ^ 64 - 1 < desc.width * max desc.height 1 * format.pixelSize

namespace FileKind

/-- The types of channels that files of a kind hold. -/
def Holds : FileKind → ChannelType → Prop
  | .png, type => type = .uchar ∨ type = .ushort
  | .netpbm, type => type = .uchar

/-- The number of channels that is written to files of a kind: Netpbm files have no opacity. -/
def channels : FileKind → ChannelOrder → Nat
  | .png, order => order.channels
  | .netpbm, .r | .netpbm, .ra => 1
  | .netpbm, .rgb | .netpbm, .rgba => 3

end FileKind

/-- What comes of a raster that a container is to write. -/
def Container.answer (container : Container) (r : Raster) :
    Except CodecError (Option (List UInt8)) :=
  match container.write r with
  | .error why => .error (.encode why)
  | .ok written => .ok (some written)

/-! ## The size and the bytes -/

theorem tooLarge_iff : TooLarge format desc ↔
    sideBound ≤ desc.width ∨ sideBound ≤ desc.rows ∨ sizeBound ≤ desc.exactSize format := by
  unfold TooLarge ImageDesc.exactSize ImageDesc.rows sideBound sizeBound
  omega

theorem pixelsToWrite_of_tooLarge (h : TooLarge format desc) :
    pixelsToWrite format desc bytes = .error (.tooLarge desc.width desc.rows) := by
  unfold pixelsToWrite
  rw [if_pos (tooLarge_iff.1 h)]

theorem pixelsToWrite_of_short (h : ¬ TooLarge format desc)
    (hshort : bytes.length < desc.exactSize format) :
    pixelsToWrite format desc bytes =
      .error (.truncated (desc.exactSize format) bytes.length) := by
  unfold pixelsToWrite
  rw [if_neg (mt tooLarge_iff.2 h), if_pos hshort]

theorem pixelsToWrite_of_enough (h : ¬ TooLarge format desc)
    (henough : desc.exactSize format ≤ bytes.length) :
    pixelsToWrite format desc bytes = .ok (bytes.take (desc.exactSize format)) := by
  unfold pixelsToWrite
  rw [if_neg (mt tooLarge_iff.2 h), if_neg (Nat.not_lt.2 henough)]

/-! ## The raster -/

theorem depthOf?_eq_none {type : ChannelType} (h : ¬ FileKind.png.Holds type) :
    depthOf? type = none := by
  obtain ⟨huchar, hushort⟩ := not_or.1 h
  cases type <;> first | rfl | contradiction

/-- A type of channels that files of the kind do not hold has no raster. -/
theorem rasterFor?_eq_none {kind : FileKind} (h : ¬ kind.Holds format.type) (width height : Nat)
    (pixels : List UInt8) : Codec.rasterFor? kind format width height pixels = none := by
  cases kind with
  | png => rw [Codec.rasterFor?, fullRaster?, depthOf?_eq_none h, Option.map_none]
  | netpbm => exact if_neg h

/-- **The raster of an image** has the sides of the image, the channels that the file keeps and
samples of the image's type, and it has exactly the bytes that these ask for. -/
structure IsRasterOf (kind : FileKind) (format : ImageFormat) (desc : ImageDesc) (r : Raster) :
    Prop where
  width : r.width = desc.width
  height : r.height = max desc.height 1
  channels : r.order.channels = kind.channels format.order
  type : r.depth.channelType = format.type
  length : r.bytes.length =
    desc.width * max desc.height 1 * kind.channels format.order * format.type.width

/-- A type of channels that files of the kind hold has a raster, if no bytes are missing. -/
theorem exists_raster {kind : FileKind} (h : kind.Holds format.type)
    (hbytes : desc.exactSize format ≤ bytes.length) :
    ∃ r, Codec.rasterFor? kind format desc.width desc.rows
      (bytes.take (desc.exactSize format)) = some r ∧ IsRasterOf kind format desc r := by
  cases kind with
  | png =>
    obtain ⟨depth, hdepth⟩ : ∃ depth, depthOf? format.type = some depth := by
      rcases h with h | h <;> rw [h] <;> exact ⟨_, rfl⟩
    have hlength : (bytes.take (desc.exactSize format)).length =
        desc.width * desc.rows * format.order.channels * format.type.width := by
      rw [List.length_take_of_le hbytes, ImageDesc.exactSize, ImageFormat.pixelSize, Nat.mul_assoc,
        Nat.mul_assoc, Nat.mul_assoc]
    refine ⟨⟨desc.width, desc.rows, format.order, depth, _⟩, ?_, rfl, rfl, rfl,
      (depthOf?_eq hdepth).2.1, hlength⟩
    rw [Codec.rasterFor?, fullRaster?, hdepth, Option.map_some]
  | netpbm =>
    have htype : format.type = .uchar := h
    have hkept : (opaqueOrder format.order).channels =
        FileKind.netpbm.channels format.order := by cases format.order <;> rfl
    have hlength := length_flatten (length_take_pixelOf htype hbytes)
    rw [List.length_map, List.length_range, hkept] at hlength
    refine ⟨_, opaqueRaster?_eq htype hbytes, rfl, rfl, hkept, htype.symm, ?_⟩
    rw [htype, ← hkept]
    rw [← hkept] at hlength
    exact hlength.trans (Nat.mul_one _).symm

/-! ## Encoding -/

section Encoding

variable (png netpbm : Container)

theorem encode_of_none (h : fileKind? path = none) :
    (Codec.ofContainers png netpbm).encode path format desc bytes = .ok none := by
  unfold Codec.ofContainers
  dsimp only
  rw [h]

theorem encode_of_error {kind : FileKind} (hkind : fileKind? path = some kind) {e : CodecError}
    (h : pixelsToWrite format desc bytes = .error e) :
    (Codec.ofContainers png netpbm).encode path format desc bytes = .error e := by
  unfold Codec.ofContainers
  dsimp only
  rw [hkind, h]
  rfl

theorem encode_of_pixels {kind : FileKind} (hkind : fileKind? path = some kind)
    {pixels : List UInt8} (h : pixelsToWrite format desc bytes = .ok pixels) :
    (Codec.ofContainers png netpbm).encode path format desc bytes =
      match Codec.rasterFor? kind format desc.width desc.rows pixels with
      | none => .error (.unsupportedFormat format)
      | some r => (containerOf png netpbm kind).answer r := by
  unfold Codec.ofContainers
  dsimp only
  rw [hkind, h]
  cases kind <;> rfl

end Encoding

/-- What a container answers is none of the failures that are found before. -/
theorem answer_ne_error (container : Container) (r : Raster) {e : CodecError}
    (h : ∀ why, e ≠ .encode why) : container.answer r ≠ .error e := by
  unfold Container.answer
  split
  · intro he
    exact h _ (Except.error.inj he).symm
  · exact nofun

/-- **The four ways of an image** to a picture file of a kind. -/
theorem encode_cases {kind : FileKind} (hkind : fileKind? path = some kind) (format : ImageFormat)
    (desc : ImageDesc) (bytes : List UInt8) :
    (TooLarge format desc ∧ ∀ png netpbm,
      (Codec.ofContainers png netpbm).encode path format desc bytes =
        .error (.tooLarge desc.width desc.rows)) ∨
    (¬ TooLarge format desc ∧ bytes.length < desc.exactSize format ∧ ∀ png netpbm,
      (Codec.ofContainers png netpbm).encode path format desc bytes =
        .error (.truncated (desc.exactSize format) bytes.length)) ∨
    (¬ TooLarge format desc ∧ desc.exactSize format ≤ bytes.length ∧ ¬ kind.Holds format.type ∧
      ∀ png netpbm, (Codec.ofContainers png netpbm).encode path format desc bytes =
        .error (.unsupportedFormat format)) ∨
    (¬ TooLarge format desc ∧ desc.exactSize format ≤ bytes.length ∧ kind.Holds format.type ∧
      ∃ r, IsRasterOf kind format desc r ∧ ∀ png netpbm,
        (Codec.ofContainers png netpbm).encode path format desc bytes =
          (containerOf png netpbm kind).answer r) := by
  by_cases hlarge : TooLarge format desc
  · exact .inl ⟨hlarge, fun png netpbm =>
      encode_of_error png netpbm hkind (pixelsToWrite_of_tooLarge hlarge)⟩
  rcases Nat.lt_or_ge bytes.length (desc.exactSize format) with hshort | henough
  · exact .inr (.inl ⟨hlarge, hshort, fun png netpbm =>
      encode_of_error png netpbm hkind (pixelsToWrite_of_short hlarge hshort)⟩)
  have hpixels := pixelsToWrite_of_enough hlarge henough
  by_cases hholds : kind.Holds format.type
  · obtain ⟨r, hr, hraster⟩ := exists_raster hholds henough
    refine .inr (.inr (.inr ⟨hlarge, henough, hholds, r, hraster, fun png netpbm => ?_⟩))
    rw [encode_of_pixels png netpbm hkind hpixels, hr]
  · refine .inr (.inr (.inl ⟨hlarge, henough, hholds, fun png netpbm => ?_⟩))
    rw [encode_of_pixels png netpbm hkind hpixels, rasterFor?_eq_none hholds]

section Failures

variable {kind : FileKind} (png netpbm : Container)

theorem encode_eq_tooLarge_iff (hkind : fileKind? path = some kind) {width height : Nat} :
    (Codec.ofContainers png netpbm).encode path format desc bytes =
        .error (.tooLarge width height) ↔
      TooLarge format desc ∧ width = desc.width ∧ height = max desc.height 1 := by
  rcases encode_cases hkind format desc bytes with
    ⟨hlarge, heq⟩ | ⟨hlarge, -, heq⟩ | ⟨hlarge, -, -, heq⟩ | ⟨hlarge, -, -, r, -, heq⟩ <;> rw [heq]
  · constructor
    · intro h
      cases h
      exact ⟨hlarge, rfl, rfl⟩
    · rintro ⟨-, rfl, rfl⟩
      rfl
  · exact ⟨nofun, fun h => absurd h.1 hlarge⟩
  · exact ⟨nofun, fun h => absurd h.1 hlarge⟩
  · exact ⟨fun h => absurd h (answer_ne_error _ r nofun), fun h => absurd h.1 hlarge⟩

theorem encode_eq_truncated_iff (hkind : fileKind? path = some kind) {expected actual : Nat} :
    (Codec.ofContainers png netpbm).encode path format desc bytes =
        .error (.truncated expected actual) ↔
      ¬ TooLarge format desc ∧ bytes.length < desc.exactSize format ∧
        expected = desc.exactSize format ∧ actual = bytes.length := by
  rcases encode_cases hkind format desc bytes with
    ⟨hlarge, heq⟩ | ⟨hlarge, hshort, heq⟩ | ⟨-, henough, -, heq⟩ | ⟨-, henough, -, r, -, heq⟩ <;>
    rw [heq]
  · exact ⟨nofun, fun h => absurd hlarge h.1⟩
  · constructor
    · intro h
      cases h
      exact ⟨hlarge, hshort, rfl, rfl⟩
    · rintro ⟨-, -, rfl, rfl⟩
      rfl
  · exact ⟨nofun, fun h => absurd h.2.1 (Nat.not_lt.2 henough)⟩
  · exact ⟨fun h => absurd h (answer_ne_error _ r nofun),
      fun h => absurd h.2.1 (Nat.not_lt.2 henough)⟩

theorem encode_eq_unsupported_iff (hkind : fileKind? path = some kind) {shown : ImageFormat} :
    (Codec.ofContainers png netpbm).encode path format desc bytes =
        .error (.unsupportedFormat shown) ↔
      ¬ TooLarge format desc ∧ desc.exactSize format ≤ bytes.length ∧
        ¬ kind.Holds format.type ∧ shown = format := by
  rcases encode_cases hkind format desc bytes with
    ⟨hlarge, heq⟩ | ⟨-, hshort, heq⟩ | ⟨hlarge, henough, hholds, heq⟩ |
      ⟨-, -, hholds, r, -, heq⟩ <;> rw [heq]
  · exact ⟨nofun, fun h => absurd hlarge h.1⟩
  · exact ⟨nofun, fun h => absurd h.2.1 (Nat.not_le.2 hshort)⟩
  · constructor
    · intro h
      cases h
      exact ⟨hlarge, henough, hholds, rfl⟩
    · rintro ⟨-, -, -, rfl⟩
      rfl
  · exact ⟨fun h => absurd h (answer_ne_error _ r nofun), fun h => absurd hholds h.2.2.1⟩

/-- **In every other case** the container of the file is given the raster of the image. -/
theorem exists_encode_eq_answer (hkind : fileKind? path = some kind)
    (hlarge : ¬ TooLarge format desc) (henough : desc.exactSize format ≤ bytes.length)
    (hholds : kind.Holds format.type) :
    ∃ r, IsRasterOf kind format desc r ∧ ∀ png netpbm,
      (Codec.ofContainers png netpbm).encode path format desc bytes =
        (containerOf png netpbm kind).answer r := by
  rcases encode_cases hkind format desc bytes with
    ⟨hyes, -⟩ | ⟨-, hshort, -⟩ | ⟨-, -, hno, -⟩ | ⟨-, -, -, h⟩
  · exact absurd hyes hlarge
  · exact absurd hshort (Nat.not_lt.2 henough)
  · exact absurd hholds hno
  · exact h

end Failures

/-- **An image is not written just when it cannot be.** A path that names no picture file gives
nothing. For one that does: the image is too large if and only if a side or the number of its bytes
is out of range; otherwise it is truncated if and only if there are fewer bytes, and what is told is
how many there should be and how many there are; otherwise its format is not supported if and only
if the file does not hold the type of its channels. In every other case the container of the file is
given a raster with exactly as many bytes as its sides, its channels and its samples ask for, and
its answer is what comes of it. -/
theorem Codec.encode_fails_iff (path : String) (format : ImageFormat) (desc : ImageDesc)
    (bytes : List UInt8) :
    (fileKind? path = none → ∀ png netpbm,
      (Codec.ofContainers png netpbm).encode path format desc bytes = .ok none) ∧
    ∀ kind, fileKind? path = some kind →
      let size := desc.width * max desc.height 1 * format.pixelSize
      let encode (png netpbm : Container) :=
        (Codec.ofContainers png netpbm).encode path format desc bytes
      (∀ png netpbm width height, encode png netpbm = .error (.tooLarge width height) ↔
        TooLarge format desc ∧ width = desc.width ∧ height = max desc.height 1) ∧
      (∀ png netpbm expected actual, encode png netpbm = .error (.truncated expected actual) ↔
        ¬ TooLarge format desc ∧ bytes.length < size ∧ expected = size ∧ actual = bytes.length) ∧
      (∀ png netpbm shown, encode png netpbm = .error (.unsupportedFormat shown) ↔
        ¬ TooLarge format desc ∧ size ≤ bytes.length ∧ ¬ kind.Holds format.type ∧
          shown = format) ∧
      (¬ TooLarge format desc → size ≤ bytes.length → kind.Holds format.type →
        ∃ r, IsRasterOf kind format desc r ∧ ∀ png netpbm,
          encode png netpbm = (containerOf png netpbm kind).answer r) := by
  refine ⟨fun hnone png netpbm => encode_of_none png netpbm hnone, fun kind hkind => ?_⟩
  exact ⟨fun png netpbm _ _ => encode_eq_tooLarge_iff png netpbm hkind,
    fun png netpbm _ _ => encode_eq_truncated_iff png netpbm hkind,
    fun png netpbm _ => encode_eq_unsupported_iff png netpbm hkind,
    exists_encode_eq_answer hkind⟩

/-- A height of zero is a row: of four pixels with thirteen bytes three are missing, and with
seventeen bytes a Netpbm file is given the twelve bytes of their colors. -/
theorem Codec.encode_fails_iff_of_row :
    (fileKind? "a.png" = some .png ∧
      (Codec.ofContainers Png.container Netpbm.container).encode "a.png" ⟨.rgba, .uchar⟩
        ⟨.one, 4, 0⟩ (List.replicate 13 0) = .error (.truncated 16 13)) ∧
    fileKind? "a.ppm" = some .netpbm ∧ ∃ r : Raster, r.height = 1 ∧ r.bytes.length = 12 ∧
      (Codec.ofContainers Png.container Netpbm.container).encode "a.ppm" ⟨.rgba, .uchar⟩
        ⟨.one, 4, 0⟩ (List.replicate 17 0) = Netpbm.container.answer r := by
  have hpng : fileKind? "a.png" = some .png := by
    simp +decide [fileKind?, Files.extension?, Files.fileName?, Files.parts, String.splitOn,
      String.splitOnAux]
  have hppm : fileKind? "a.ppm" = some .netpbm := by
    simp +decide [fileKind?, Files.extension?, Files.fileName?, Files.parts, String.splitOn,
      String.splitOnAux]
  have hfits : ¬ TooLarge ⟨.rgba, .uchar⟩ ⟨.one, 4, 0⟩ := by
    rw [tooLarge_iff]
    decide
  obtain ⟨-, htruncated, -, -⟩ := (Codec.encode_fails_iff "a.png" ⟨.rgba, .uchar⟩ ⟨.one, 4, 0⟩
    (List.replicate 13 0)).2 .png hpng
  obtain ⟨-, -, -, hwritten⟩ := (Codec.encode_fails_iff "a.ppm" ⟨.rgba, .uchar⟩ ⟨.one, 4, 0⟩
    (List.replicate 17 0)).2 .netpbm hppm
  obtain ⟨r, hraster, hanswer⟩ := hwritten hfits (by decide) rfl
  exact ⟨⟨hpng, (htruncated _ _ 16 13).2 ⟨hfits, by decide, rfl, rfl⟩⟩, hppm, r, hraster.height,
    hraster.length, hanswer _ _⟩

end DriverBench.Raster
