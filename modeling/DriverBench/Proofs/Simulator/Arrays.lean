import DriverBench.Proofs.Simulator.Request
/-!
# Buffers and images are independent arrays

A buffer is an array of bytes and an image an array of pixels. What is written somewhere is read
there and nowhere else: not beside the stretch or the rectangle, and in no other memory. A copy puts
what its source held before, also where source and destination overlap.
-/

namespace DriverBench.Simulator

open Device

/-- What an image is made of. -/
def State.form? (d : State) (id : Nat) : Option (ImageFormat × ImageDesc) :=
  (d.memories.get? id).bind (·.image)

/-- The pixel of an image in a column and a row. -/
def State.pixel? (d : State) (id x y : Nat) : Option (List UInt8) :=
  (d.memories.get? id).bind fun e => e.image.bind fun (format, desc) =>
    if x < desc.width ∧ y < desc.rows then some (pixelOf format e.bytes (y * desc.width + x))
    else none

section Views

variable {d : State} {id : Nat} {bytes : List UInt8} {format : ImageFormat} {desc : ImageDesc}

theorem contents?_of_get? {e : Storage} (he : d.memories.get? id = some e) :
    d.contents? id = some e.bytes := by
  rw [State.contents?, he, Option.map_some]

theorem form?_of_get? (he : d.memories.get? id = some ⟨bytes, some (format, desc)⟩) :
    d.form? id = some (format, desc) := by
  rw [State.form?, he, Option.bind_some]

theorem pixel?_of_get? (he : d.memories.get? id = some ⟨bytes, some (format, desc)⟩) (x y : Nat) :
    d.pixel? id x y = if x < desc.width ∧ y < desc.rows then
      some (pixelOf format bytes (y * desc.width + x)) else none := by
  rw [State.pixel?, he, Option.bind_some, Option.bind_some]

end Views

/-! ## Buffers -/

/-- A stretch of a buffer can be read, and reading leaves the driver as it is. -/
theorem gives_readBuffer {d : State} {m : Memory} {bytes : List UInt8}
    (he : d.memories.get? m.handle.id = some ⟨bytes, none⟩) {start length : Nat}
    (h : start + length ≤ bytes.length) :
    (readBuffer m start length).Gives d (slice bytes start length) d := by
  unfold Call.Gives readBuffer storageOf
  rw [bind_assoc, Action.run_get_bind, he]
  simp only [orFail, pure_bind, checkRange, Option.isSome_none, Bool.false_eq_true, if_false,
    if_pos h]
  rfl

/-- **A write into a buffer** is read in its stretch, and behind it the rest is as it was. -/
theorem read_of_writeBuffer {d d' : State} {m : Memory} {offset : Nat} {data : List UInt8}
    (h : (writeBuffer m offset data).Gives d () d') :
    ∃ old, d.contents? m.handle.id = some old ∧
      ∀ start length, start + length ≤ old.length →
        ∃ bytes, (readBuffer m start length).Gives d' bytes d' ∧ bytes.length = length ∧
          ∀ i < length, bytes[i]? =
            if offset ≤ start + i ∧ start + i < offset + data.length then data[start + i - offset]?
            else old[start + i]? := by
  obtain ⟨old, he, hle, rfl⟩ := (tries_writeBuffer m offset data).of_gives h
  refine ⟨old, contents?_of_get? he, fun start length hin => ?_⟩
  rw [← length_overwrite hle] at hin
  refine ⟨_, gives_readBuffer (State.get?_withBytes_self he _) hin, length_slice hin,
    fun i hi => ?_⟩
  rw [getElem?_slice, if_pos hi, getElem?_overwrite hle]

/-- **A copy between buffers** puts the bytes of the source, as they were, into its stretch of the
destination. -/
theorem contents?_of_copyBuffer {d d' : State} {src dst : Memory}
    {srcOffset dstOffset length : Nat}
    (h : (copyBuffer src dst srcOffset dstOffset length).Gives d () d') :
    ∃ source old new, d.contents? src.handle.id = some source ∧
      d.contents? dst.handle.id = some old ∧ d'.contents? dst.handle.id = some new ∧
      new.length = old.length ∧ ∀ i, new[i]? =
        if dstOffset ≤ i ∧ i < dstOffset + length then source[srcOffset + (i - dstOffset)]?
        else old[i]? := by
  obtain ⟨source, old, hsrc, he, hsource, hle, rfl⟩ :=
    (tries_copyBuffer src dst srcOffset dstOffset length).of_gives h
  have hlength := length_slice hsource
  have hchunk : dstOffset + (slice source srcOffset length).length ≤ old.length := by
    rwa [hlength]
  refine ⟨source, old, _, contents?_of_get? hsrc, contents?_of_get? he,
    contents?_of_get? (State.get?_withBytes_self he _), length_overwrite hchunk, fun i => ?_⟩
  dsimp only
  rw [getElem?_overwrite hchunk, hlength]
  split
  · rw [getElem?_slice, if_pos (by omega)]
  · rfl

/-! ## Images -/

/-- What the pixels of an image are when chunks are put into the rows of a rectangle. -/
theorem pixel?_scatter {d : State} (hd : d.Sound) {id : Nat} {bytes : List UInt8}
    {format : ImageFormat} {desc : ImageDesc} {origin : Origin} {region : Region}
    {chunks : List (List UInt8)}
    (he : d.memories.get? id = some ⟨bytes, some (format, desc)⟩)
    (hfits : fits desc origin region = true)
    (hc : ∀ c ∈ chunks, c.length = region.1 * format.pixelSize) {p : Nat → Nat → List UInt8}
    (hpixel : ∀ k < region.2.1, ∃ chunk, chunks[k]? = some chunk ∧
      ∀ i < region.1, pixelOf format chunk i = p i k) (x y : Nat) :
    (d.withBytes id (scatter bytes (rowsOf format desc origin region).1 chunks)).pixel? id x y =
      if Covers origin region x y then some (p (x - origin.1) (y - origin.2.1))
      else d.pixel? id x y := by
  have hwhole : bytes.length = desc.exactSize format := hd.whole _ _ he _ _ rfl
  obtain ⟨hwidth, hrows, -⟩ := fits_iff.1 hfits
  rw [pixel?_of_get? (State.get?_withBytes_self he _), pixel?_of_get? he]
  by_cases hcovers : Covers origin region x y
  · have ⟨hx, hx', hy, hy'⟩ := hcovers
    obtain ⟨chunk, hchunk, hrow⟩ := hpixel (y - origin.2.1) (by omega)
    rw [if_pos hcovers, if_pos ⟨by omega, by omega⟩,
      pixelOf_scatter hfits hwhole hc hcovers hchunk, hrow _ (by omega)]
  · rw [if_neg hcovers]
    split
    · next hin => rw [pixelOf_scatter_of_not_covers hfits hwhole hc hin.1 hcovers]
    · rfl

/-- **A write into a rectangle** puts there the pixels of the data, row by row. -/
theorem pixel?_of_writeImage {d d' : State} (hd : d.Sound) {m : Memory} {origin : Origin}
    {region : Region} {data : List UInt8} (h : (writeImage m origin region data).Gives d () d') :
    ∃ format desc, d.form? m.handle.id = some (format, desc) ∧
      d'.form? m.handle.id = some (format, desc) ∧
      ∀ x y, d'.pixel? m.handle.id x y =
        if Covers origin region x y then
          some (pixelOf format data ((y - origin.2.1) * region.1 + (x - origin.1)))
        else d.pixel? m.handle.id x y := by
  obtain ⟨bytes, format, desc, he, hfits, hdata, rfl⟩ :=
    (tries_writeImage m origin region data).of_gives h
  refine ⟨format, desc, form?_of_get? he, form?_of_get? (State.get?_withBytes_self he _),
    pixel?_scatter hd he hfits (length_of_mem_chunksOf hdata) (p := fun i k =>
      pixelOf format data (k * region.1 + i)) fun k hk => ?_⟩
  refine ⟨_, getElem?_chunksOf _ data hk, fun i hi => ?_⟩
  rw [← Nat.mul_assoc, pixelOf_slice hi]

/-- **A copy between rectangles** puts the pixels of the source there, as they were. -/
theorem pixel?_of_copyImage {d d' : State} (hd : d.Sound) {src dst : Memory}
    {srcOrigin dstOrigin : Origin} {region : Region}
    (h : (copyImage src dst srcOrigin dstOrigin region).Gives d () d') (x y : Nat) :
    d'.pixel? dst.handle.id x y =
      if Covers dstOrigin region x y then
        d.pixel? src.handle.id (srcOrigin.1 + (x - dstOrigin.1))
          (srcOrigin.2.1 + (y - dstOrigin.2.1))
      else d.pixel? dst.handle.id x y := by
  obtain ⟨source, target, format, srcDesc, dstDesc, hsrc, hdst, hfitsSrc, hfitsDst, rfl⟩ :=
    (tries_copyImage src dst srcOrigin dstOrigin region).of_gives h
  have hwhole : source.length = srcDesc.exactSize format := hd.whole _ _ hsrc _ _ rfl
  have hchunks := length_of_mem_gather (hwhole.symm ▸ (stretches_rowsOf hfitsSrc).inside)
  rw [pixel?_scatter hd hdst hfitsDst hchunks (p := fun i k =>
    pixelOf format source ((srcOrigin.2.1 + k) * srcDesc.width + srcOrigin.1 + i))]
  · obtain ⟨hwidth, hrows, -⟩ := fits_iff.1 hfitsSrc
    by_cases hcovers : Covers dstOrigin region x y
    · have ⟨hx, hx', hy, hy'⟩ := hcovers
      rw [if_pos hcovers, if_pos hcovers, pixel?_of_get? hsrc, if_pos ⟨by omega, by omega⟩,
        Nat.add_assoc]
    · rw [if_neg hcovers, if_neg hcovers]
  · intro k hk
    refine ⟨_, by rw [getElem?_gather, getElem?_rowsOf hk, Option.map_some], fun i hi => ?_⟩
    rw [pixelOf_slice hi]

/-- A rectangle can be read wherever it lies in an image, if there is room for it in the output. -/
theorem gives_readImage {d : State} {m : Memory} {format : ImageFormat} {desc : ImageDesc}
    (hform : d.form? m.handle.id = some (format, desc)) {origin : Origin} {region : Region}
    (hfits : fits desc origin region = true) {out : List UInt8}
    (hout : region.2.1 * (region.1 * format.pixelSize) ≤ out.length) :
    ∃ out', (readImage m origin region out).Gives d out' d := by
  obtain ⟨⟨bytes, image⟩, he, himage⟩ := Option.bind_eq_some_iff.1 hform
  obtain rfl : image = some (format, desc) := himage
  refine ⟨overwrite out 0 (gather bytes (region.1 * format.pixelSize)
    (rowsOf format desc origin region).1).flatten, ?_⟩
  unfold Call.Gives readImage storageOf
  rw [bind_assoc, Action.run_get_bind, he]
  simp only [orFail, pure_bind, imageOf, checkedRows, if_pos hfits, length_rowsOf, snd_rowsOf]
  rw [if_neg (Nat.not_lt.2 hout)]
  rfl

/-- **A rectangle that is read** comes to the front of the output pixel by pixel and row by row, and
nothing else changes. -/
theorem pixel?_of_readImage {d d' : State} (hd : d.Sound) {m : Memory} {origin : Origin}
    {region : Region} {out out' : List UInt8}
    (h : (readImage m origin region out).Gives d out' d') :
    d' = d ∧ ∃ format desc, d.form? m.handle.id = some (format, desc) ∧
      out'.length = out.length ∧
      (∀ i < region.1, ∀ k < region.2.1, d.pixel? m.handle.id (origin.1 + i) (origin.2.1 + k) =
        some (pixelOf format out' (k * region.1 + i))) ∧
      out'.drop (region.2.1 * (region.1 * format.pixelSize)) =
        out.drop (region.2.1 * (region.1 * format.pixelSize)) := by
  obtain ⟨⟨bytes, format, desc, he, hfits, hout, rfl⟩, rfl⟩ :=
    (looks_readImage m origin region out).of_gives h
  refine ⟨rfl, format, desc, form?_of_get? he, ?_⟩
  have hwhole : bytes.length = desc.exactSize format := hd.whole _ _ he _ _ rfl
  have hchunks := length_of_mem_gather (hwhole.symm ▸ (stretches_rowsOf hfits).inside)
  generalize hrows : gather bytes (region.1 * format.pixelSize)
    (rowsOf format desc origin region).1 = rows at hchunks ⊢
  have hlength : rows.flatten.length = region.2.1 * (region.1 * format.pixelSize) := by
    rw [length_flatten hchunks, ← hrows, gather, List.length_map, length_rowsOf]
  -- The output is the rows one behind another, and then what was there.
  have hfront : overwrite out 0 rows.flatten = rows.flatten ++ out.drop rows.flatten.length := by
    rw [overwrite, List.take_zero, List.nil_append, Nat.zero_add]
  refine ⟨length_overwrite (by omega), fun i hi k hk => ?_, ?_⟩
  · obtain ⟨hwidth, hheight, -⟩ := fits_iff.1 hfits
    have hrow : rows[k]? = some (slice bytes (((origin.2.1 + k) * desc.width + origin.1) *
        format.pixelSize) (region.1 * format.pixelSize)) := by
      rw [← hrows, getElem?_gather, getElem?_rowsOf hk, Option.map_some]
    rw [pixel?_of_get? he, if_pos ⟨by omega, by omega⟩, hfront, ← pixelOf_slice hi, Nat.mul_assoc,
      slice_flatten hchunks hrow, pixelOf_slice hi, Nat.add_assoc]
  · rw [hfront, ← hlength, List.drop_left]

/-! ## All memory -/

/-- **Buffers and images are independent arrays.** Of every driver that requests lead to:
what is read behind a write into a buffer is the data in its stretch and the old bytes elsewhere;
behind a write into a rectangle of an image the pixels in it are those of the data, row by row, and
the others stay; a rectangle is read as its pixels row by row, and the output behind them stays; a
copy puts what the source held before the call into the destination, and the rest of that stays; and
no request changes memory that it is not for. -/
theorem State.Reached.arrays {d : State} (hd : d.Reached) :
    (∀ m offset data d', (writeBuffer m offset data).Gives d () d' →
      ∃ old, d.contents? m.handle.id = some old ∧
        ∀ start length, start + length ≤ old.length →
          ∃ bytes, (readBuffer m start length).Gives d' bytes d' ∧ bytes.length = length ∧
            ∀ i < length, bytes[i]? =
              if offset ≤ start + i ∧ start + i < offset + data.length then
                data[start + i - offset]?
              else old[start + i]?) ∧
    (∀ m origin region data d', (writeImage m origin region data).Gives d () d' →
      ∃ format desc, d.form? m.handle.id = some (format, desc) ∧
        d'.form? m.handle.id = some (format, desc) ∧
        ∀ x y, d'.pixel? m.handle.id x y =
          if Covers origin region x y then
            some (pixelOf format data ((y - origin.2.1) * region.1 + (x - origin.1)))
          else d.pixel? m.handle.id x y) ∧
    (∀ m origin region out out' d', (readImage m origin region out).Gives d out' d' →
      d' = d ∧ ∃ format desc, d.form? m.handle.id = some (format, desc) ∧
        out'.length = out.length ∧
        (∀ i < region.1, ∀ k < region.2.1, d.pixel? m.handle.id (origin.1 + i) (origin.2.1 + k) =
          some (pixelOf format out' (k * region.1 + i))) ∧
        out'.drop (region.2.1 * (region.1 * format.pixelSize)) =
          out.drop (region.2.1 * (region.1 * format.pixelSize))) ∧
    (∀ m format desc origin region out, d.form? m.handle.id = some (format, desc) →
      fits desc origin region = true →
      region.2.1 * (region.1 * format.pixelSize) ≤ out.length →
      ∃ out', (readImage m origin region out).Gives d out' d) ∧
    (∀ src dst srcOffset dstOffset length d',
      (copyBuffer src dst srcOffset dstOffset length).Gives d () d' →
      ∃ source old new, d.contents? src.handle.id = some source ∧
        d.contents? dst.handle.id = some old ∧ d'.contents? dst.handle.id = some new ∧
        new.length = old.length ∧ ∀ i, new[i]? =
          if dstOffset ≤ i ∧ i < dstOffset + length then source[srcOffset + (i - dstOffset)]?
          else old[i]?) ∧
    (∀ src dst srcOrigin dstOrigin region d',
      (copyImage src dst srcOrigin dstOrigin region).Gives d () d' →
      ∀ x y, d'.pixel? dst.handle.id x y =
        if Covers dstOrigin region x y then
          d.pixel? src.handle.id (srcOrigin.1 + (x - dstOrigin.1))
            (srcOrigin.2.1 + (y - dstOrigin.2.1))
        else d.pixel? dst.handle.id x y) ∧
    ∀ (r : Request) id e, d.memories.get? id = some e → r.target? ≠ some id →
      (d.after r).memories.get? id = some e :=
  ⟨fun _ _ _ _ h => read_of_writeBuffer h, fun _ _ _ _ _ h => pixel?_of_writeImage hd.sound h,
    fun _ _ _ _ _ _ h => pixel?_of_readImage hd.sound h,
    fun _ _ _ _ _ _ hform hfits hout => gives_readImage hform hfits hout,
    fun _ _ _ _ _ _ h => contents?_of_copyBuffer h,
    fun _ _ _ _ _ _ h => pixel?_of_copyImage hd.sound h,
    fun r _ _ he hid => (change_after hd.sound r).memory hd.sound.fresh he hid⟩

/-- An image of three columns and two rows, the first that a driver has made. -/
def picture : Memory :=
  .ofImage ⟨1, .image, some 0⟩ ⟨.r, .uchar⟩ (.ofSize 3 2)

/-- The driver behind the making of the image. -/
def State.withPicture : State :=
  State.after {} (.createImage ⟨.r, .uchar⟩ (.ofSize 3 2) (some [1, 2, 3, 4, 5, 6]))

/-- The first two columns are copied one column to the right, over a part of themselves: the last
column holds what the second one held before. -/
theorem State.arrays_of_overlapping_copy :
    State.withPicture.Reached ∧ ∃ d',
      (copyImage picture picture (0, 0, 0) (1, 0, 0) (2, 2, 1)).Gives State.withPicture () d' ∧
      d'.pixel? 1 2 0 = some [2] ∧ d'.pixel? 1 2 1 = some [5] ∧ d'.pixel? 1 0 1 = some [4] := by
  have hd : State.withPicture.Reached := (State.Reached.start 0).after _
  have hok : ((copyImage picture picture (0, 0, 0) (1, 0, 0) (2, 2, 1)).run.run
      State.withPicture).1.toOption = some () := by decide +kernel
  have hsecond : State.withPicture.pixel? 1 1 0 = some [2] := by decide +kernel
  have hfifth : State.withPicture.pixel? 1 1 1 = some [5] := by decide +kernel
  have hfourth : State.withPicture.pixel? 1 0 1 = some [4] := by decide +kernel
  rcases hr : (copyImage picture picture (0, 0, 0) (1, 0, 0) (2, 2, 1)).run.run State.withPicture
    with ⟨e | ⟨⟩, d'⟩
  · rw [hr] at hok
    cases hok
  obtain ⟨-, -, -, -, -, hcopy, -⟩ := hd.arrays
  have hpixel := hcopy picture picture (0, 0, 0) (1, 0, 0) (2, 2, 1) d' hr
  refine ⟨hd, d', hr, (hpixel 2 0).trans ?_, (hpixel 2 1).trans ?_, (hpixel 0 1).trans ?_⟩
  · rw [if_pos (by decide)]
    exact hsecond
  · rw [if_pos (by decide)]
    exact hfifth
  · rw [if_neg (by decide)]
    exact hfourth

end DriverBench.Simulator
