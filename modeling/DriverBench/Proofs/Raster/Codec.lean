import DriverBench.Proofs.Raster.Netpbm
import DriverBench.Proofs.Raster.Png
/-!
# An image comes back from its picture file

What is written to a picture file and read again is the image that was written, as far as the file
can hold it. Which channels a file keeps is said twice, where it is written and where it is read,
and the two must agree for every order of channels: a PNG file keeps all channels, and three become
four by full opacity; a Netpbm file has no room for opacity, and keeps gray or colors. All this
rests on the containers only in so far as they keep the rasters that they are given.
-/

namespace DriverBench.Raster

open Device Simulator

section Codec

variable {png netpbm : Container} {path : String} {format : ImageFormat} {desc : ImageDesc}
  {bytes : List UInt8}

/-- **What is relied on**: a PNG file keeps every raster, and a Netpbm file every graymap and every
pixmap of eight bits. -/
structure Codec.Keeping (png netpbm : Container) : Prop where
  png_keeps {r : Raster} : r.Storable → png.Keeps r
  netpbm_keeps {r : Raster} : r.Storable → r.depth = .eight → r.order = .r ∨ r.order = .rgb →
    netpbm.Keeps r

/-- The two containers at hand keep their rasters. -/
theorem Codec.keeping : Codec.Keeping Png.container Netpbm.container :=
  ⟨Png.keeps, Netpbm.keeps⟩

/-- An image comes back: it is written to a file, and the image in the file has the same extent, one
format and the bytes of some pixels. -/
def Codec.Returns (codec : Codec) (path : String) (format : ImageFormat) (desc : ImageDesc)
    (bytes : List UInt8) (read : ImageFormat) (pixels : List UInt8) : Prop :=
  ∃ file image, codec.encode path format desc bytes = .ok (some file) ∧
    codec.decode path file = .ok (some image) ∧
    image.desc = .ofSize desc.width desc.rows ∧ image.format = read ∧ image.data.bytes = pixels

/-- The container of a kind of picture file. -/
def containerOf (png netpbm : Container) : FileKind → Container
  | .png => png
  | .netpbm => netpbm

/-- An image of a size that can be written, with all its pixels, is written without what follows
them. -/
theorem pixelsToWrite_eq (hwidth : desc.width < sideBound) (hrows : desc.rows < sideBound)
    (hsize : desc.exactSize format < sizeBound) (hbytes : desc.exactSize format ≤ bytes.length) :
    pixelsToWrite format desc bytes = .ok (bytes.take (desc.exactSize format)) := by
  unfold pixelsToWrite
  rw [if_neg (by omega), if_neg (by omega)]

variable (png netpbm) in
/-- **A raster that its container keeps** is written for an image, and the image of that raster is
read. -/
theorem decode_encode {kind : FileKind} (hkind : fileKind? path = some kind)
    {pixels : List UInt8} (hpixels : pixelsToWrite format desc bytes = .ok pixels) {r : Raster}
    (hr : Codec.rasterFor? kind format desc.width desc.rows pixels = some r)
    (hkeeps : (containerOf png netpbm kind).Keeps r) :
    ∃ file, (Codec.ofContainers png netpbm).encode path format desc bytes = .ok (some file) ∧
      (Codec.ofContainers png netpbm).decode path file = .ok (some (imageOfRaster path r)) := by
  obtain ⟨file, hwrite, hread⟩ := hkeeps
  refine ⟨file, ?_, ?_⟩
  · unfold Codec.ofContainers
    dsimp only
    rw [hkind, hpixels]
    dsimp only [bind, Except.bind]
    rw [hr]
    cases kind with
    | png =>
      have hwritten : png.write r = .ok file := hwrite
      dsimp only
      rw [hwritten]
    | netpbm =>
      have hwritten : netpbm.write r = .ok file := hwrite
      dsimp only
      rw [hwritten]
  · unfold Codec.ofContainers
    dsimp only
    rw [hkind]
    cases kind with
    | png =>
      have hback : png.read file = .ok r := hread
      dsimp only
      rw [hback]
    | netpbm =>
      have hback : netpbm.read file = .ok r := hread
      dsimp only
      rw [hback]

/-! ## What is written -/

/-- The samples of a file are the channels of the image, and a full sample has all bits set. -/
theorem depthOf?_eq {type : ChannelType} {depth : Depth} (h : depthOf? type = some depth) :
    depth.width = type.width ∧ depth.channelType = type ∧
      depth.full = List.replicate type.width 255 := by
  cases type <;> cases h <;> exact ⟨rfl, rfl, rfl⟩

/-- The raster of an image for a PNG file can be held by one. -/
theorem storable_fullRaster {depth : Depth} (hdepth : depthOf? format.type = some depth)
    (hpositive : 0 < desc.width) (hwidth : desc.width < sideBound) (hrows : desc.rows < sideBound)
    (hlimit : desc.exactSize format ≤ readLimit)
    (hbytes : desc.exactSize format ≤ bytes.length) :
    (⟨desc.width, desc.rows, format.order, depth, bytes.take (desc.exactSize format)⟩ :
      Raster).Storable := by
  have hlength : (bytes.take (desc.exactSize format)).length = desc.exactSize format :=
    List.length_take_of_le hbytes
  refine ⟨?_, hpositive, Nat.le_max_right _ _, hwidth, hrows,
    Nat.le_trans (Nat.le_of_eq hlength) hlimit⟩
  rw [Raster.WellFormed, Raster.pixelSize, hlength, (depthOf?_eq hdepth).1]
  rfl

/-- The pixels of a raster for a Netpbm file: the first channels of those of the image. -/
theorem opaqueRaster?_eq (htype : format.type = .uchar)
    (hbytes : desc.exactSize format ≤ bytes.length) :
    opaqueRaster? format desc.width desc.rows (bytes.take (desc.exactSize format)) =
      some ⟨desc.width, desc.rows, opaqueOrder format.order, .eight,
        ((List.range (desc.width * desc.rows)).map fun i =>
          (pixelOf format bytes i).take (opaqueOrder format.order).channels).flatten⟩ := by
  have hpixel : format.pixelSize = format.order.channels := by
    rw [ImageFormat.pixelSize, htype]
    exact Nat.mul_one _
  unfold opaqueRaster?
  rw [if_pos htype]
  dsimp only
  rw [← hpixel, ImageDesc.exactSize, pixelsOf_take format.pixelSize_pos hbytes, List.flatMap_map,
    List.flatMap_def]
  rfl

/-- The first channels of a pixel are all there. -/
theorem length_take_pixelOf (htype : format.type = .uchar)
    (hbytes : desc.exactSize format ≤ bytes.length) :
    ∀ p ∈ (List.range (desc.width * desc.rows)).map fun i =>
      (pixelOf format bytes i).take (opaqueOrder format.order).channels,
      p.length = (opaqueOrder format.order).channels := by
  have hkept : (opaqueOrder format.order).channels ≤ format.pixelSize := by
    rw [ImageFormat.pixelSize, htype]
    cases format.order <;> decide
  intro p hp
  obtain ⟨i, hi, rfl⟩ := List.mem_map.1 hp
  have hin : i * format.pixelSize + format.pixelSize ≤ bytes.length :=
    Nat.le_trans (row_le_of_lt _ (List.mem_range.1 hi)) hbytes
  rw [List.length_take_of_le]
  rwa [pixelOf, length_slice hin]

/-- The raster of an image for a Netpbm file can be held by one. -/
theorem storable_opaqueRaster (htype : format.type = .uchar) (hpositive : 0 < desc.width)
    (hwidth : desc.width < sideBound) (hrows : desc.rows < sideBound)
    (hlimit : desc.width * desc.rows * (opaqueOrder format.order).channels ≤ readLimit)
    (hbytes : desc.exactSize format ≤ bytes.length) :
    (⟨desc.width, desc.rows, opaqueOrder format.order, .eight,
      ((List.range (desc.width * desc.rows)).map fun i =>
        (pixelOf format bytes i).take (opaqueOrder format.order).channels).flatten⟩ :
      Raster).Storable := by
  have hlength := length_flatten (length_take_pixelOf htype hbytes)
  rw [List.length_map, List.length_range] at hlength
  refine ⟨?_, hpositive, Nat.le_max_right _ _, hwidth, hrows,
    Nat.le_trans (Nat.le_of_eq hlength) hlimit⟩
  rw [Raster.WellFormed, hlength, Raster.pixelSize]
  exact congrArg _ (Nat.mul_one _).symm

/-- An image whose raster is within the limit of reading is of a size that can be written. -/
theorem exactSize_lt_of_limit (htype : format.type = .uchar)
    (hlimit : desc.width * desc.rows * (opaqueOrder format.order).channels ≤ readLimit) :
    desc.exactSize format < sizeBound := by
  have hkept : 1 ≤ (opaqueOrder format.order).channels := by cases format.order <;> decide
  have hpixel : format.pixelSize ≤ 4 := by
    rw [ImageFormat.pixelSize, htype]
    cases format.order <;> decide
  have harea : desc.width * desc.rows ≤ readLimit :=
    Nat.le_trans (Nat.le_mul_of_pos_right _ hkept) hlimit
  calc desc.width * desc.rows * format.pixelSize
      ≤ readLimit * 4 := Nat.mul_le_mul harea hpixel
    _ < sizeBound := by decide

/-! ## What is read -/

/-- **A PNG file** gives the image back, with full opacity where there were three channels. -/
theorem returns_png (hkeeping : Codec.Keeping png netpbm) (hpath : fileKind? path = some .png)
    (htype : format.type = .uchar ∨ format.type = .ushort) (hpositive : 0 < desc.width)
    (hwidth : desc.width < sideBound) (hrows : desc.rows < sideBound)
    (hlimit : desc.exactSize format ≤ readLimit)
    (hbytes : desc.exactSize format ≤ bytes.length) :
    (Codec.ofContainers png netpbm).Returns path format desc bytes
      ⟨if format.order = .rgb then .rgba else format.order, format.type⟩
      (if format.order = .rgb then
        (List.range (desc.width * desc.rows)).flatMap fun i =>
          pixelOf format bytes i ++ List.replicate format.type.width 255
      else bytes.take (desc.exactSize format)) := by
  obtain ⟨depth, hdepth⟩ : ∃ depth, depthOf? format.type = some depth := by
    rcases htype with htype | htype <;> rw [htype] <;> exact ⟨_, rfl⟩
  have hbound : desc.exactSize format < sizeBound := Nat.lt_of_le_of_lt hlimit (by decide)
  have hraster : Codec.rasterFor? .png format desc.width desc.rows
      (bytes.take (desc.exactSize format)) = some ⟨desc.width, desc.rows, format.order, depth,
        bytes.take (desc.exactSize format)⟩ := by
    rw [Codec.rasterFor?, fullRaster?, hdepth, Option.map_some]
  obtain ⟨file, hencode, hdecode⟩ := decode_encode png netpbm hpath
    (pixelsToWrite_eq hwidth hrows hbound hbytes) hraster
    (hkeeping.png_keeps (storable_fullRaster hdepth hpositive hwidth hrows hlimit hbytes))
  obtain ⟨hsize, hchannel, hfull⟩ := depthOf?_eq hdepth
  refine ⟨file, _, hencode, hdecode, rfl, ?_, ?_⟩
  · rw [imageOfRaster, formatOf, hchannel]
    cases format.order <;> rfl
  · rw [imageOfRaster, imageBytes, Raster.pixelSize, hfull]
    dsimp only
    -- Only three channels are changed where they are read.
    by_cases horder : format.order = .rgb
    · have hpixels : pixelsOf (format.order.channels * depth.width)
          (bytes.take (desc.exactSize format)) =
          (List.range (desc.width * desc.rows)).map fun i => pixelOf format bytes i := by
        rw [hsize]
        exact pixelsOf_take format.pixelSize_pos hbytes
      rw [hpixels, if_pos horder, horder, List.flatMap_map]
    · rw [if_neg horder]
      cases h : format.order <;> first | rfl | exact absurd h horder

/-- **A Netpbm file** gives gray back for one and two channels, and colors with full opacity for
three and four. -/
theorem returns_netpbm (hkeeping : Codec.Keeping png netpbm)
    (hpath : fileKind? path = some .netpbm) (htype : format.type = .uchar)
    (hpositive : 0 < desc.width) (hwidth : desc.width < sideBound) (hrows : desc.rows < sideBound)
    (hlimit : desc.width * desc.rows * (opaqueOrder format.order).channels ≤ readLimit)
    (hbytes : desc.exactSize format ≤ bytes.length) :
    (Codec.ofContainers png netpbm).Returns path format desc bytes
      ⟨if format.order = .r ∨ format.order = .ra then .r else .rgba, .uchar⟩
      ((List.range (desc.width * desc.rows)).flatMap fun i =>
        if format.order = .r ∨ format.order = .ra then (pixelOf format bytes i).take 1
        else (pixelOf format bytes i).take 3 ++ [255]) := by
  have hpieces := length_take_pixelOf htype hbytes
  have hkept : (format.order = .r ∨ format.order = .ra) ∧ opaqueOrder format.order = .r ∨
      ¬ (format.order = .r ∨ format.order = .ra) ∧ opaqueOrder format.order = .rgb := by
    cases format.order <;> decide
  have horder : opaqueOrder format.order = .r ∨ opaqueOrder format.order = .rgb :=
    hkept.imp And.right And.right
  obtain ⟨file, hencode, hdecode⟩ := decode_encode png netpbm hpath
    (pixelsToWrite_eq hwidth hrows (exactSize_lt_of_limit htype hlimit) hbytes)
    (opaqueRaster?_eq htype hbytes)
    (hkeeping.netpbm_keeps (storable_opaqueRaster htype hpositive hwidth hrows hlimit hbytes) rfl
      horder)
  refine ⟨file, _, hencode, hdecode, rfl, ?_, ?_⟩
  · rw [imageOfRaster, formatOf]
    cases format.order <;> rfl
  · rw [imageOfRaster, imageBytes, Raster.pixelSize]
    dsimp only
    rcases hkept with ⟨hgray, hone⟩ | ⟨hcolor, hthree⟩
    · simp only [hone, if_pos hgray]
      rw [List.flatMap_def]
      rfl
    · rw [hthree] at hpieces
      have hpixels := pixelsOf_flatten (by decide : 0 < 3) hpieces
      simp only [hthree, if_neg hcolor]
      change (pixelsOf 3 _).flatMap _ = _
      rw [hpixels, List.flatMap_map]
      rfl

end Codec

/-- **An image comes back from its picture file.** Let the containers keep the rasters that they are
given, and let an image have pixels, sides of 32 bits and at least the bytes of its pixels. From a
PNG file, for channels of eight and of sixteen bits, it comes back in its own channel type and byte
for byte, and three channels become four by full opacity. From a Netpbm file, for channels of eight
bits, one and two channels come back as gray, three and four as colors with full opacity. -/
theorem Codec.images_return {png netpbm : Container} (hkeeping : Codec.Keeping png netpbm)
    (path : String) (format : ImageFormat) (desc : ImageDesc) (bytes : List UInt8)
    (hpositive : 0 < desc.width) (hwidth : desc.width < sideBound) (hrows : desc.rows < sideBound)
    (hbytes : desc.exactSize format ≤ bytes.length) :
    (fileKind? path = some .png → format.type = .uchar ∨ format.type = .ushort →
      desc.exactSize format ≤ readLimit →
      (Codec.ofContainers png netpbm).Returns path format desc bytes
        ⟨if format.order = .rgb then .rgba else format.order, format.type⟩
        (if format.order = .rgb then
          (List.range (desc.width * desc.rows)).flatMap fun i =>
            pixelOf format bytes i ++ List.replicate format.type.width 255
        else bytes.take (desc.exactSize format))) ∧
    (fileKind? path = some .netpbm → format.type = .uchar →
      desc.width * desc.rows * (opaqueOrder format.order).channels ≤ readLimit →
      (Codec.ofContainers png netpbm).Returns path format desc bytes
        ⟨if format.order = .r ∨ format.order = .ra then .r else .rgba, .uchar⟩
        ((List.range (desc.width * desc.rows)).flatMap fun i =>
          if format.order = .r ∨ format.order = .ra then (pixelOf format bytes i).take 1
          else (pixelOf format bytes i).take 3 ++ [255])) := by
  refine ⟨fun hpath htype hlimit => ?_, fun hpath htype hlimit => ?_⟩
  · exact returns_png hkeeping hpath htype hpositive hwidth hrows hlimit hbytes
  · exact returns_netpbm hkeeping hpath htype hpositive hwidth hrows hlimit hbytes

/-- Two pixels of sixteen-bit colors come back from a PNG file with full opacity; a pixel of gray
with opacity comes back from a Netpbm file as gray. Bytes behind the pixels are left out. -/
theorem Codec.images_return_of_two_pixels :
    (Codec.ofContainers Png.container Netpbm.container).Returns "a.png" ⟨.rgb, .ushort⟩
      (.ofSize 1 2) [1, 2, 3, 4, 5, 6, 7, 8, 9, 10, 11, 12, 13] ⟨.rgba, .ushort⟩
      [1, 2, 3, 4, 5, 6, 255, 255, 7, 8, 9, 10, 11, 12, 255, 255] ∧
    (Codec.ofContainers Png.container Netpbm.container).Returns "a.pgm" ⟨.ra, .uchar⟩
      (.ofSize 2 1) [1, 2, 3, 4, 5] ⟨.r, .uchar⟩ [1, 3] := by
  have hpng : fileKind? "a.png" = some .png := by
    simp +decide [fileKind?, Files.extension?, Files.fileName?, Files.parts, String.splitOn,
      String.splitOnAux]
  have hpgm : fileKind? "a.pgm" = some .netpbm := by
    simp +decide [fileKind?, Files.extension?, Files.fileName?, Files.parts, String.splitOn,
      String.splitOnAux]
  refine ⟨?_, ?_⟩
  · exact (Codec.images_return Codec.keeping "a.png" ⟨.rgb, .ushort⟩ (.ofSize 1 2)
      [1, 2, 3, 4, 5, 6, 7, 8, 9, 10, 11, 12, 13] (by decide) (by decide) (by decide)
      (by decide)).1 hpng (.inr rfl) (by decide)
  · exact (Codec.images_return Codec.keeping "a.pgm" ⟨.ra, .uchar⟩ (.ofSize 2 1) [1, 2, 3, 4, 5]
      (by decide) (by decide) (by decide) (by decide)).2 hpgm rfl (by decide)

end DriverBench.Raster
