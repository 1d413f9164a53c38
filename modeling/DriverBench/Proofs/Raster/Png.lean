import DriverBench.Proofs.Raster.Deflate
import DriverBench.Proofs.Raster.Pixels
import DriverBench.Raster.Png
/-!
# Pictures come back from PNG files

A file that is written has three chunks: the header, the rows and the end. Chunks are read as they
were written, with checksums that are right; the rows come out of the compressed data without a
filter; and their samples, put into the grid of the picture pixel by pixel, are the samples of the
raster in its own order of bytes.
-/

namespace DriverBench.Raster

/-! ## Numbers of four bytes -/

theorem toNat_toUInt8 {n : Nat} : n.toUInt8.toNat = n % 256 :=
  UInt8.toNat_ofNat'

theorem length_bigEndian32 (n : Nat) : (bigEndian32 n).length = 4 :=
  rfl

/-- A number is read from its four bytes. -/
theorem ofBigEndian_bigEndian32 {n : Nat} (h : n < 0x100000000) :
    ofBigEndian (bigEndian32 n) = n := by
  change (((0 * 256 + (n / 0x1000000).toUInt8.toNat) * 256 + (n / 0x10000).toUInt8.toNat) * 256 +
    (n / 0x100).toUInt8.toNat) * 256 + n.toUInt8.toNat = n
  simp only [toNat_toUInt8]
  omega

namespace Png

open Device

/-! ## Chunks -/

/-- **A chunk** is read as it was written, and its checksum is right. -/
theorem takeChunk_chunkBytes {letters : String} (hletters : (chunkType letters).length = 4)
    {content : List UInt8} (hcontent : content.length < 0x100000000) (rest : List UInt8) :
    takeChunk (chunkBytes letters content ++ rest) =
      some (⟨chunkType letters, content, true⟩, rest) := by
  have hcheck := (crc32 (chunkType letters ++ content)).toNat_lt
  generalize hcrc : (crc32 (chunkType letters ++ content)).toNat = crc at hcheck
  have hbytes : chunkBytes letters content ++ rest = bigEndian32 content.length ++
      (chunkType letters ++ (content ++ (bigEndian32 crc ++ rest))) := by
    simp only [chunkBytes, hcrc, List.append_assoc]
  have henough : ¬ (chunkBytes letters content ++ rest).length < content.length + 12 := by
    rw [hbytes]
    simp only [List.length_append, hletters, length_bigEndian32]
    omega
  have hlength : ofBigEndian ((chunkBytes letters content ++ rest).take 4) = content.length := by
    rw [hbytes, List.take_left' (length_bigEndian32 _), ofBigEndian_bigEndian32 hcontent]
  have hbody : (chunkBytes letters content ++ rest).drop 4 =
      chunkType letters ++ (content ++ (bigEndian32 crc ++ rest)) := by
    rw [hbytes, List.drop_left' (length_bigEndian32 _)]
  have hbehind : (chunkType letters ++ (content ++ (bigEndian32 crc ++ rest))).drop
      (4 + content.length) = bigEndian32 crc ++ rest := by
    rw [← List.drop_drop, List.drop_left' hletters, List.drop_left]
  have hrest : (chunkType letters ++ (content ++ (bigEndian32 crc ++ rest))).drop
      (8 + content.length) = rest := by
    rw [show 8 + content.length = 4 + content.length + 4 by omega, ← List.drop_drop, hbehind,
      List.drop_left' (length_bigEndian32 _)]
  unfold takeChunk
  rw [hlength, hbody, if_neg henough, List.take_left' hletters, List.drop_left' hletters,
    List.take_left, hbehind, hrest, List.take_left' (length_bigEndian32 _)]
  dsimp only
  rw [hcrc, ofBigEndian_bigEndian32 hcheck, beq_self_eq_true]

theorem takeSoundChunk_chunkBytes {letters : String} (hletters : (chunkType letters).length = 4)
    {content : List UInt8} (hcontent : content.length < 0x100000000) (rest : List UInt8) :
    takeSoundChunk (chunkBytes letters content ++ rest) =
      .ok (⟨chunkType letters, content, true⟩, rest) := by
  unfold takeSoundChunk
  rw [takeChunk_chunkBytes hletters hcontent]
  dsimp only
  rw [Bool.not_true, Bool.and_false, if_neg (by decide)]

/-- Whether a chunk is one of rows can be seen from its type. -/
theorem beginsRows_chunkBytes {letters : String} (hletters : (chunkType letters).length = 4)
    (content rest : List UInt8) :
    beginsRows (chunkBytes letters content ++ rest) = (chunkType letters == chunkType "IDAT") := by
  unfold beginsRows chunkBytes
  simp only [List.append_assoc]
  rw [List.drop_left' (length_bigEndian32 _), List.take_left' hletters]

theorem length_chunkBytes {letters : String} (hletters : (chunkType letters).length = 4)
    (content : List UInt8) : (chunkBytes letters content).length = content.length + 12 := by
  unfold chunkBytes
  simp only [List.length_append, hletters, length_bigEndian32]
  omega

/-- A chunk of rows comes before those behind it. -/
theorem readRows_chunkBytes {content : List UInt8} (hcontent : content.length < 0x100000000)
    {rest : List UInt8} {steps : Nat} {parts : List (List UInt8)}
    (hrest : readRows steps rest = .ok parts) :
    readRows (steps + 1) (chunkBytes "IDAT" content ++ rest) = .ok (content :: parts) := by
  have henough : ¬ (chunkBytes "IDAT" content ++ rest).length < 8 := by
    rw [List.length_append, length_chunkBytes (by decide)]
    omega
  unfold readRows
  rw [if_neg henough, beginsRows_chunkBytes (by decide), beq_self_eq_true, Bool.not_true,
    if_neg (by decide), takeSoundChunk_chunkBytes (by decide) hcontent]
  change (readRows steps rest >>= _) = _
  rw [hrest]
  rfl

/-- **The rows** are in the one chunk of rows, with the end behind it. -/
theorem readRows_eq {content : List UInt8} (hcontent : content.length < 0x100000000) :
    readRows (chunkBytes "IDAT" content ++ chunkBytes "IEND" []).length
      (chunkBytes "IDAT" content ++ chunkBytes "IEND" []) = .ok [content] := by
  have hlength : (chunkBytes "IDAT" content).length = content.length + 12 :=
    length_chunkBytes (by decide) content
  obtain ⟨steps, hsteps⟩ : ∃ steps,
      (chunkBytes "IDAT" content ++ chunkBytes "IEND" []).length = steps + 1 + 1 :=
    ⟨(chunkBytes "IDAT" content ++ chunkBytes "IEND" []).length - 2, by
      rw [List.length_append]
      omega⟩
  have hend : readRows (steps + 1) (chunkBytes "IEND" []) = .ok [] := by
    have hother : beginsRows (chunkBytes "IEND" []) = false := by decide +kernel
    unfold readRows
    rw [if_neg (by rw [length_chunkBytes (by decide)]; decide), hother]
    rfl
  rw [hsteps]
  exact readRows_chunkBytes hcontent hend

/-! ## The header -/

/-- The color type of a raster. -/
def colorOf : ChannelOrder → ColorType
  | .r => .gray
  | .ra => .grayAlpha
  | .rgb => .rgb
  | .rgba => .rgba

/-- The number of bits of a sample. -/
def bitDepth : Depth → Nat
  | .eight => 8
  | .sixteen => 16

/-- The header of a raster. -/
def headerOf (r : Raster) : Header :=
  ⟨r.width, r.height, bitDepth r.depth, colorOf r.order, false⟩

/-- The content of the header chunk of a raster. -/
def headerContent (r : Raster) : List UInt8 :=
  bigEndian32 r.width ++ bigEndian32 r.height ++ [depthNumber r.depth, colorNumber r.order, 0, 0, 0]

theorem ofNumber?_colorNumber (order : ChannelOrder) :
    ColorType.ofNumber? (colorNumber order).toNat = some (colorOf order) := by
  cases order <;> rfl

theorem toNat_depthNumber (depth : Depth) : (depthNumber depth).toNat = bitDepth depth := by
  cases depth <;> rfl

/-- All colors that are written may have eight bits, and sixteen. -/
theorem contains_bitDepth (order : ChannelOrder) (depth : Depth) :
    (colorOf order).depths.contains (bitDepth depth) = true := by
  cases order <;> cases depth <;> rfl

/-- **The header** is read as it was written. -/
theorem readHeader_eq {r : Raster} (hr : r.Storable) :
    readHeader (headerContent r) = .ok (headerOf r) := by
  have hwidth : ofBigEndian ((headerContent r).take 4) = r.width :=
    ofBigEndian_bigEndian32 hr.width_lt
  have hheight : ofBigEndian (((headerContent r).drop 4).take 4) = r.height :=
    ofBigEndian_bigEndian32 hr.height_lt
  have hlast : ((headerContent r).drop 8).map (·.toNat) =
      [(depthNumber r.depth).toNat, (colorNumber r.order).toNat, 0, 0, 0] := rfl
  unfold readHeader
  rw [hwidth, hheight, hlast, if_neg (fun h => h rfl)]
  dsimp only
  rw [ofNumber?_colorNumber, toNat_depthNumber]
  dsimp only
  rw [contains_bitDepth, Bool.not_true, if_neg (by decide), if_neg hr.not_empty,
    if_neg (by decide)]
  rfl

/-! ## Rows -/

/-- A row that is not filtered is as it stands. -/
theorem unfilterRow_zero (size : Nat) (done passed row above : List UInt8) :
    unfilterRow 0 size done passed row above = some (done.reverse ++ row) := by
  induction row generalizing done passed above with
  | nil => rw [unfilterRow, List.append_nil]
  | cons x row ih =>
    have hsame : x + (0 : Nat).toUInt8 = x := UInt8.add_zero x
    rw [unfilterRow]
    refine (ih _ _ _).trans ?_
    rw [hsame, List.reverse_cons, List.append_assoc, List.singleton_append]

/-- **Rows** that are not filtered are taken off as they stand. -/
theorem takeRows_flatMap {length : Nat} (size : Nat) {rows : List (List UInt8)}
    (hrows : ∀ row ∈ rows, row.length = length) (above : List UInt8) :
    takeRows length size rows.length above (rows.flatMap (0 :: ·)) = .ok (rows, []) := by
  induction rows generalizing above with
  | nil => rfl
  | cons row rows ih =>
    have hrow : row.length = length := hrows row List.mem_cons_self
    have hrest := ih (fun r h => hrows r (List.mem_cons_of_mem _ h)) row
    have hfront : (row ++ rows.flatMap (0 :: ·)).take length = row := List.take_left' hrow
    rw [List.length_cons, List.flatMap_cons, List.cons_append, takeRows]
    dsimp only
    -- The filter is the one that predicts nothing, whatever the row above is.
    rw [hfront, if_neg (by omega)]
    dsimp only [bind, Except.bind]
    have hfilter : unfilterRow (0 : UInt8).toNat size [] [] row above = some row :=
      unfilterRow_zero size [] [] row above
    rw [hfilter]
    dsimp only
    rw [List.drop_left' hrow, hrest]
    rfl

/-! ## Samples -/

theorem fileOrder_eight (bytes : List UInt8) : fileOrder .eight bytes = bytes := by
  rw [fileOrder]
  exact nofun

/-- The order of bytes in a file is turned around twice to none. -/
theorem fileOrder_fileOrder (depth : Depth) (bytes : List UInt8) :
    fileOrder depth (fileOrder depth bytes) = bytes := by
  fun_induction fileOrder depth bytes with
  | case1 low high rest ih => rw [fileOrder, ih]
  | case2 depth bytes h =>
    rw [fileOrder]
    exact h

theorem length_fileOrder (depth : Depth) (bytes : List UInt8) :
    (fileOrder depth bytes).length = bytes.length := by
  fun_induction fileOrder depth bytes with
  | case1 low high rest ih => simp [ih]
  | case2 => rfl

theorem fileOrder_append {depth : Depth} {bytes : List UInt8} (h : depth.width ∣ bytes.length)
    (rest : List UInt8) :
    fileOrder depth (bytes ++ rest) = fileOrder depth bytes ++ fileOrder depth rest := by
  fun_induction fileOrder depth bytes with
  | case1 low high bytes ih =>
    rw [List.cons_append, List.cons_append, fileOrder, ih, List.cons_append, List.cons_append]
    simp only [Depth.width, List.length_cons] at h ⊢
    omega
  | case2 depth bytes hshort =>
    cases depth with
    | eight => rw [fileOrder_eight, fileOrder_eight]
    | sixteen =>
      match bytes, hshort, h with
      | [], _, _ => rfl
      | [b], _, h => simp [Depth.width] at h
      | low :: high :: bytes, hshort, _ => exact absurd rfl (hshort low high bytes rfl)

theorem fileOrder_flatten {depth : Depth} {rows : List (List UInt8)}
    (h : ∀ row ∈ rows, depth.width ∣ row.length) :
    fileOrder depth rows.flatten = rows.flatMap (fileOrder depth) := by
  induction rows with
  | nil =>
    cases depth <;> rfl
  | cons row rows ih =>
    rw [List.flatten_cons, fileOrder_append (h row List.mem_cons_self),
      ih fun r hr => h r (List.mem_cons_of_mem _ hr), List.flatMap_cons]

/-- The bytes of a sample of two bytes are those that it was read from, turned around. -/
theorem sampleBytes_sixteen (high low : UInt8) :
    sampleBytes 16 (ofBigEndian [high, low]) = [low, high] := by
  have hvalue : ofBigEndian [high, low] = high.toNat * 256 + low.toNat :=
    congrArg (· * 256 + low.toNat) (Nat.zero_add high.toNat)
  have hhigh := high.toNat_lt
  have hlow := low.toNat_lt
  rw [hvalue, sampleBytes, if_pos rfl, List.cons.injEq, List.cons.injEq, ← UInt8.toNat_inj,
    ← UInt8.toNat_inj, toNat_toUInt8, toNat_toUInt8]
  exact ⟨by omega, by omega, rfl⟩

theorem sampleBytes_eight (b : UInt8) : sampleBytes 8 b.toNat = [b] := by
  rw [sampleBytes, if_neg (by decide)]
  change [(b.toNat * 1).toUInt8] = [b]
  rw [Nat.mul_one, Nat.toUInt8, UInt8.ofNat_toNat]

/-- **The samples of a row** are as many as their bytes allow, and stand for the bytes of the row,
turned around. -/
theorem rowSamples_eq {depth : Depth} {row : List UInt8} {count : Nat}
    (h : row.length = count * depth.width) :
    (rowSamples (bitDepth depth) row).length = count ∧
      (rowSamples (bitDepth depth) row).flatMap (sampleBytes (bitDepth depth)) =
        fileOrder depth row := by
  cases depth with
  | eight =>
    rw [bitDepth, rowSamples, if_neg (by decide), if_pos rfl, fileOrder_eight, List.length_map,
      List.flatMap_map]
    refine ⟨h.trans (Nat.mul_one count), ?_⟩
    simp only [sampleBytes_eight, List.flatMap_singleton']
  | sixteen =>
    obtain ⟨pairs, rfl, hcount, hpairs⟩ := exists_pieces h
    have hcut : pixelsOf 2 pairs.flatten = pairs := pixelsOf_flatten (by decide) hpairs
    rw [bitDepth, rowSamples, if_pos rfl, hcut,
      fileOrder_flatten fun p hp => (hpairs p hp).symm ▸ Nat.dvd_refl _, List.length_map,
      List.flatMap_map, List.flatMap_def, List.flatMap_def]
    refine ⟨hcount, congrArg _ (List.map_congr_left fun pair hpair => ?_)⟩
    match pair, hpairs pair hpair with
    | [high, low], _ => exact sampleBytes_sixteen high low

/-- Groups of samples are the samples, if these are just so many. -/
theorem flatten_groupsOf {size count : Nat} {samples : List Nat}
    (h : samples.length = count * size) : (groupsOf size count samples).flatten = samples := by
  induction count generalizing samples with
  | zero => exact (List.length_eq_zero_iff.1 (by omega)).symm
  | succ count ih =>
    rw [Nat.succ_mul] at h
    rw [groupsOf, List.flatten_cons, ih (by rw [List.length_drop]; omega), List.take_append_drop]

theorem length_groupsOf (size count : Nat) (samples : List Nat) :
    (groupsOf size count samples).length = count := by
  induction count generalizing samples with
  | zero => rfl
  | succ count ih => rw [groupsOf, List.length_cons, ih]

/-! ## The grid -/

/-- **Values** are put into an array one behind another. -/
theorem toList_fill {α β : Type} (f : α → β) (values : List α) (start k : Nat) (grid : Array β)
    (h : start + k + values.length ≤ grid.size) :
    ((values.zipIdx k).foldl (fun grid (a, x) => grid.setIfInBounds (start + x) (f a))
        grid).toList =
      grid.toList.take (start + k) ++ (values.map f ++
        grid.toList.drop (start + k + values.length)) := by
  induction values generalizing k grid with
  | nil => simp
  | cons a values ih =>
    rw [List.length_cons] at h
    have hset : (grid.setIfInBounds (start + k) (f a)).toList =
        (grid.toList.take (start + k) ++ [f a]) ++ grid.toList.drop (start + k + 1) := by
      rw [Array.toList_setIfInBounds, List.set_eq_take_append_cons_drop,
        if_pos (by rw [Array.length_toList]; omega), List.append_assoc, List.singleton_append]
    have hfront : (grid.toList.take (start + k) ++ [f a]).length = start + (k + 1) := by
      rw [List.length_append, List.length_take_of_le (by rw [Array.length_toList]; omega),
        List.length_singleton, Nat.add_assoc]
    have hback : ((grid.toList.take (start + k) ++ [f a]) ++ grid.toList.drop (start + k + 1)).drop
        (start + (k + 1) + values.length) = grid.toList.drop (start + k + (values.length + 1)) := by
      rw [← List.drop_drop, List.drop_left' hfront, List.drop_drop]
      congr 1
      omega
    rw [List.zipIdx_cons, List.foldl_cons, ih (k + 1) _ (by rw [Array.size_setIfInBounds]; omega),
      hset, List.take_left' hfront, hback, List.append_assoc, List.singleton_append, List.map_cons,
      List.length_cons, List.cons_append]

/-- Rows of values, put into an array from row `k` on. -/
def fillRows {α β : Type} (f : α → β) (width : Nat) (rows : List (List α)) (k : Nat)
    (grid : Array β) : Array β :=
  (rows.zipIdx k).foldl (fun grid (row, y) =>
    row.zipIdx.foldl (fun grid (a, x) => grid.setIfInBounds (y * width + x) (f a)) grid) grid

/-- **Rows of values** are put into an array one behind another. -/
theorem toList_fillRows {α β : Type} (f : α → β) {width : Nat} {rows : List (List α)}
    (hrows : ∀ row ∈ rows, row.length = width) {k : Nat} {grid : Array β}
    (h : (k + rows.length) * width ≤ grid.size) :
    (fillRows f width rows k grid).toList =
      grid.toList.take (k * width) ++ (rows.flatMap (·.map f) ++
        grid.toList.drop ((k + rows.length) * width)) := by
  induction rows generalizing k grid with
  | nil => simp [fillRows]
  | cons row rows ih =>
    have hrow : row.length = width := hrows row List.mem_cons_self
    have hend : (k + (rows.length + 1)) * width = (k + 1) * width + rows.length * width := by
      rw [← Nat.add_mul, Nat.add_assoc, Nat.add_comm 1]
    rw [List.length_cons, hend] at h
    have hnext : (k + 1) * width = k * width + width := Nat.succ_mul k width
    -- Behind the row the array has what was in front of it, the row, and what was behind it.
    have hfill := toList_fill f row (k * width) 0 grid (by omega)
    generalize hgrid : row.zipIdx.foldl (fun grid (a, x) =>
      grid.setIfInBounds (k * width + x) (f a)) grid = grid' at hfill
    rw [Nat.add_zero, hrow, ← hnext, ← List.append_assoc] at hfill
    have hfront : (grid.toList.take (k * width) ++ row.map f).length = (k + 1) * width := by
      rw [List.length_append, List.length_map, hrow, hnext,
        List.length_take_of_le (by rw [Array.length_toList]; omega)]
    have hsize : grid'.size = grid.size := by
      rw [← Array.length_toList, hfill, List.length_append, hfront, List.length_drop,
        Array.length_toList]
      omega
    have hrest : (k + 1 + rows.length) * width = (k + 1) * width + rows.length * width :=
      Nat.add_mul _ _ _
    have hcons : fillRows f width (row :: rows) k grid = fillRows f width rows (k + 1) grid' := by
      rw [← hgrid]
      rfl
    rw [hcons, ih (fun r hr => hrows r (List.mem_cons_of_mem _ hr)) (by rw [hrest, hsize]; exact h),
      hfill, List.take_left' hfront, hrest, ← List.drop_drop, List.drop_left' hfront,
      List.drop_drop, List.append_assoc, List.flatMap_cons, List.length_cons, hend,
      List.append_assoc]

/-! ## The setting -/

/-- What the chunks before the rows of a raster say. -/
def settingOf (r : Raster) : Setting := { header := headerOf r }

theorem samples_colorOf (order : ChannelOrder) : (colorOf order).samples = order.channels := by
  cases order <;> rfl

theorem bitDepth_eq (depth : Depth) : bitDepth depth = 8 * depth.width := by
  cases depth <;> rfl

theorem channelOrder_settingOf (r : Raster) : channelOrder (settingOf r) = r.order := by
  obtain ⟨_, _, order, _, _⟩ := r
  cases order <;> rfl

theorem outputDepth_settingOf (r : Raster) : outputDepth (settingOf r) = r.depth := by
  obtain ⟨_, _, _, depth, _⟩ := r
  cases depth <;> rfl

/-- Without a palette and without transparency a pixel is its samples. -/
theorem pixelBytes_settingOf (r : Raster) (pixel : List Nat) :
    pixelBytes (settingOf r) pixel = pixel.flatMap (sampleBytes (bitDepth r.depth)) := by
  obtain ⟨_, _, order, _, _⟩ := r
  cases order <;> rfl

/-- Where the rows begin nothing more is said about them. -/
theorem readSetting_eq (s : Setting) (content rest : List UInt8) :
    readSetting (chunkBytes "IDAT" content ++ rest).length s (chunkBytes "IDAT" content ++ rest) =
      .ok (s, chunkBytes "IDAT" content ++ rest) := by
  obtain ⟨steps, hsteps⟩ : ∃ steps, (chunkBytes "IDAT" content ++ rest).length = steps + 1 :=
    Nat.exists_eq_add_one.2 (by
      rw [List.length_append, length_chunkBytes (by decide)]
      omega)
  rw [hsteps, readSetting, beginsRows_chunkBytes (by decide), beq_self_eq_true, if_pos rfl]
  rfl

theorem stepsBelow_one (bound : Nat) : stepsBelow 0 1 bound = bound := by
  rw [stepsBelow]
  omega

/-- The number of bytes of a row. -/
theorem rowLength_eq (r : Raster) :
    (r.width * ((headerOf r).depth * (headerOf r).color.samples) + 7) / 8 =
      r.width * r.pixelSize := by
  have hbits : r.width * ((headerOf r).depth * (headerOf r).color.samples) =
      8 * (r.width * r.pixelSize) := by
    change r.width * (bitDepth r.depth * (colorOf r.order).samples) = _
    rw [samples_colorOf, bitDepth_eq, Raster.pixelSize, Nat.mul_assoc, Nat.mul_left_comm,
      Nat.mul_comm r.depth.width]
  rw [hbits]
  omega

/-! ## The picture -/

/-- The pixels of a row in a file. -/
def pixelsOfRow (r : Raster) (row : List UInt8) : List (List Nat) :=
  groupsOf r.order.channels r.width (rowSamples (bitDepth r.depth) row)

/-- **The pixels of a row** stand for its bytes, turned around. -/
theorem flatMap_pixelsOfRow {r : Raster} {row : List UInt8}
    (h : row.length = r.width * r.pixelSize) :
    (pixelsOfRow r row).flatMap (pixelBytes (settingOf r)) = fileOrder r.depth row := by
  have hcount : row.length = r.width * r.order.channels * r.depth.width := by
    rw [h, Raster.pixelSize, Nat.mul_assoc]
  obtain ⟨hlength, hbytes⟩ := rowSamples_eq hcount
  have hgroups : (pixelsOfRow r row).flatMap id = rowSamples (bitDepth r.depth) row :=
    List.flatMap_id.trans (flatten_groupsOf hlength)
  calc (pixelsOfRow r row).flatMap (pixelBytes (settingOf r))
      = (pixelsOfRow r row).flatMap fun pixel => pixel.flatMap (sampleBytes (bitDepth r.depth)) :=
        congrArg (List.flatMap · _) (funext (pixelBytes_settingOf r))
    _ = ((pixelsOfRow r row).flatMap id).flatMap (sampleBytes (bitDepth r.depth)) :=
        List.flatMap_assoc.symm
    _ = fileOrder r.depth row := by rw [hgroups, hbytes]

/-- The single pass of a plain picture puts its rows into the grid. -/
theorem readPasses_eq {r : Raster} (hr : r.Storable) {rows : List (List UInt8)}
    (hcount : rows.length = r.height) (hrows : ∀ row ∈ rows, row.length = r.width * r.pixelSize)
    (grid : Array (List UInt8)) :
    readPasses (settingOf r) grid (rows.flatMap (0 :: ·)) (passes false) =
      .ok (fillRows (pixelBytes (settingOf r)) r.width (rows.map (pixelsOfRow r)) 0 grid) := by
  have hlines (size : Nat) : takeRows (r.width * r.pixelSize) size r.height []
      (rows.flatMap (0 :: ·)) = .ok (rows, []) :=
    hcount ▸ takeRows_flatMap size hrows []
  have hpass : readPass (settingOf r) ⟨0, 0, 1, 1⟩ grid (rows.flatMap (0 :: ·)) =
      .ok (fillRows (pixelBytes (settingOf r)) r.width (rows.map (pixelsOfRow r)) 0 grid, []) := by
    unfold readPass
    dsimp only [settingOf, headerOf]
    rw [stepsBelow_one, stepsBelow_one]
    refine (if_neg hr.not_empty).trans ?_
    have hlength := rowLength_eq r
    dsimp only [headerOf] at hlength
    rw [hlength, hlines]
    dsimp only [bind, Except.bind, pure, Except.pure]
    -- The pass starts in the corner and leaves nothing out: a pixel stands in its row behind as
    -- many full rows as there are above.
    rw [fillRows, List.zipIdx_map, List.foldl_map]
    simp only [Nat.mul_one, Nat.zero_add, Nat.add_zero, samples_colorOf]
    rfl
  rw [passes, if_neg (by decide), readPasses, hpass]
  rfl

/-- **The grid** that is full of the rows holds their bytes, turned around. -/
theorem flatten_fillRows {r : Raster} {rows : List (List UInt8)}
    (hcount : rows.length = r.height) (hrows : ∀ row ∈ rows, row.length = r.width * r.pixelSize) :
    (fillRows (pixelBytes (settingOf r)) r.width (rows.map (pixelsOfRow r)) 0
      (Array.replicate (r.width * r.height) [])).toList.flatten =
      rows.flatMap (fileOrder r.depth) := by
  have hwidth : ∀ row ∈ rows.map (pixelsOfRow r), row.length = r.width := by
    intro row hrow
    obtain ⟨bytes, -, rfl⟩ := List.mem_map.1 hrow
    exact length_groupsOf _ _ _
  have hsize : (0 + (rows.map (pixelsOfRow r)).length) * r.width = r.width * r.height := by
    rw [Nat.zero_add, List.length_map, hcount, Nat.mul_comm]
  have hroom : (0 + (rows.map (pixelsOfRow r)).length) * r.width ≤
      (Array.replicate (r.width * r.height) ([] : List UInt8)).size :=
    Nat.le_of_eq (hsize.trans Array.size_replicate.symm)
  have hfill := toList_fillRows (pixelBytes (settingOf r)) hwidth hroom
  have hbehind : (Array.replicate (r.width * r.height) ([] : List UInt8)).toList.drop
      (r.width * r.height) = [] := by
    refine List.drop_eq_nil_iff.2 (Nat.le_of_eq ?_)
    rw [Array.length_toList, Array.size_replicate]
  rw [hfill, hsize, hbehind, Nat.zero_mul, List.take_zero, List.nil_append, List.append_nil,
    List.flatMap_map, List.flatMap_def, List.flatMap_def, List.flatten_flatten, List.map_map]
  refine congrArg _ (List.map_congr_left fun row hrow => ?_)
  rw [← flatMap_pixelsOfRow (hrows row hrow), List.flatMap_def]
  rfl

/-! ## The file -/

/-- The bytes of the rows of a raster before they are compressed. -/
theorem length_flatMap_rows {rows : List (List UInt8)} {length : Nat}
    (h : ∀ row ∈ rows, row.length = length) :
    (rows.flatMap ((0 : UInt8) :: ·)).length = rows.length * (1 + length) := by
  induction rows with
  | nil => rw [List.flatMap_nil, List.length_nil, List.length_nil, Nat.zero_mul]
  | cons row rows ih =>
    rw [List.flatMap_cons, List.length_append, ih fun r hr => h r (List.mem_cons_of_mem _ hr),
      List.length_cons, h row List.mem_cons_self, List.length_cons, Nat.succ_mul]
    omega

/-- The header tells how many bytes the rows are. -/
theorem rowBytes_headerOf (r : Raster) :
    (headerOf r).rowBytes = r.height * (1 + r.width * r.pixelSize) := by
  have hlength := rowLength_eq r
  rw [← Nat.mul_assoc] at hlength
  change 0 + Pass.rowBytes (headerOf r) ⟨0, 0, 1, 1⟩ = _
  rw [Nat.zero_add, Pass.rowBytes]
  dsimp only [headerOf] at hlength ⊢
  rw [stepsBelow_one, stepsBelow_one, hlength]

theorem leastRowBytes_headerOf (r : Raster) :
    leastRowBytes (headerOf r) = r.width * r.height * r.pixelSize := by
  have hbits : r.width * r.height * bitDepth r.depth * r.order.channels =
      r.width * r.height * r.pixelSize * 8 := by
    rw [bitDepth_eq, Raster.pixelSize]
    ac_rfl
  rw [leastRowBytes]
  dsimp only [headerOf]
  rw [samples_colorOf, hbits, Nat.mul_div_cancel _ (by decide)]

/-- The file of a raster with given rows. -/
def fileOf (r : Raster) (rows : List (List UInt8)) : List UInt8 :=
  signature ++ chunkBytes "IHDR" (headerContent r) ++
    chunkBytes "IDAT" (Deflate.write (rows.flatMap (0 :: ·))) ++ chunkBytes "IEND" []

/-- A raster that can be held by a file takes so few bytes that the length of its chunk of rows can
be written. -/
theorem length_write_lt {r : Raster} (hr : r.Storable) {data : List UInt8}
    (h : data.length = r.height * (1 + r.width * r.pixelSize)) :
    (Deflate.write data).length < 0x100000000 := by
  -- A row has a byte at least, so that the filters double the data at most; and blocks take half as
  -- much again as they hold.
  have hbytes := hr.length_bytes
  have hheight : r.height ≤ r.height * (r.width * r.pixelSize) :=
    Nat.le_mul_of_pos_right _ hr.rowLength_pos
  have hlimit : r.bytes.length ≤ 0x40000000 := hr.limit
  have hblocks := Deflate.length_storedBlocks_le data
  rw [Nat.mul_add, Nat.mul_one] at h
  rw [Deflate.length_write]
  omega

/-- **What a reading needs**: every part of the file is read, and together they make the picture. -/
theorem read_eq {file rest chunks samples : List UInt8} {compressed : List (List UInt8)}
    {first : Chunk} {header : Header} {s : Setting} {grid : Array (List UInt8)}
    (hsignature : file.take 8 = signature)
    (hfirst : takeSoundChunk (file.drop 8) = .ok (first, rest)) (hletters : first.is "IHDR" = true)
    (hheader : readHeader first.content = .ok header)
    (hsetting : readSetting rest.length { header } rest = .ok (s, chunks))
    (hpalette : s.header.color ≠ .indexed)
    (hlimit : header.width * header.height * (channelOrder s).channels * (outputDepth s).width ≤
      readLimit)
    (hrows : readRows chunks.length chunks = .ok compressed)
    (hinflate : Deflate.read header.rowBytes compressed = some samples)
    (henough : leastRowBytes header ≤ samples.length)
    (hgrid : readPasses s (Array.replicate (header.width * header.height) []) samples
      (passes header.interlaced) = .ok grid) :
    read file = .ok ⟨header.width, header.height, channelOrder s, outputDepth s,
      grid.toList.flatten⟩ := by
  unfold read
  rw [if_neg (not_not_intro hsignature), hfirst]
  dsimp only [bind, Except.bind]
  rw [hletters, Bool.not_true, if_neg (by decide), hheader]
  dsimp only
  rw [hsetting]
  dsimp only
  rw [if_neg (fun h => hpalette h.1), if_neg (Nat.not_lt.2 hlimit), hrows]
  dsimp only
  rw [hinflate]
  dsimp only
  rw [if_neg (Nat.not_lt.2 henough), hgrid]
  rfl

/-- **A file** of rows is read as the raster of these rows. -/
theorem read_fileOf {r : Raster} (hr : r.Storable) {rows : List (List UInt8)}
    (hcount : rows.length = r.height) (hrows : ∀ row ∈ rows, row.length = r.width * r.pixelSize) :
    read (fileOf r rows) =
      .ok ⟨r.width, r.height, r.order, r.depth, rows.flatMap (fileOrder r.depth)⟩ := by
  have hdata : (rows.flatMap ((0 : UInt8) :: ·)).length =
      r.height * (1 + r.width * r.pixelSize) := by
    rw [length_flatMap_rows hrows, hcount]
  have hpalette : (settingOf r).header.color ≠ .indexed := by
    change colorOf r.order ≠ .indexed
    cases r.order <;> decide
  have hlimit : (headerOf r).width * (headerOf r).height * (channelOrder (settingOf r)).channels *
      (outputDepth (settingOf r)).width ≤ readLimit := by
    rw [channelOrder_settingOf, outputDepth_settingOf, Nat.mul_assoc]
    exact Nat.le_trans (Nat.le_of_eq hr.wellFormed.symm) hr.limit
  have hinflate : Deflate.read (headerOf r).rowBytes
      [Deflate.write (rows.flatMap ((0 : UInt8) :: ·))] = some (rows.flatMap ((0 : UInt8) :: ·)) :=
    Deflate.read_write (Nat.le_of_eq (hdata.trans (rowBytes_headerOf r).symm))
  have henough : leastRowBytes (headerOf r) ≤ (rows.flatMap ((0 : UInt8) :: ·)).length := by
    rw [hdata, leastRowBytes_headerOf, Nat.mul_comm r.width, Nat.mul_assoc]
    exact Nat.mul_le_mul_left _ (Nat.le_add_left _ _)
  have hfirst : takeSoundChunk ((fileOf r rows).drop 8) =
      .ok (⟨chunkType "IHDR", headerContent r, true⟩,
        chunkBytes "IDAT" (Deflate.write (rows.flatMap (0 :: ·))) ++ chunkBytes "IEND" []) := by
    rw [fileOf, List.append_assoc, List.append_assoc, List.drop_left' (by rfl)]
    have hlength : (headerContent r).length = 13 := rfl
    exact takeSoundChunk_chunkBytes (by decide) (by rw [hlength]; decide) _
  have hread := read_eq (by rfl) hfirst (beq_self_eq_true _) (readHeader_eq hr)
    (readSetting_eq (settingOf r) _ _) hpalette hlimit (readRows_eq (length_write_lt hr hdata))
    hinflate henough (readPasses_eq hr hcount hrows _)
  rw [hread, channelOrder_settingOf, outputDepth_settingOf]
  exact congrArg _ (congrArg _ (flatten_fillRows hcount hrows))

/-- **The container of PNG files** keeps every raster. -/
theorem keeps {r : Raster} (hr : r.Storable) : container.Keeps r := by
  obtain ⟨rows, hbytes, hcount, hrows⟩ :=
    exists_pieces ((length_fileOrder r.depth r.bytes).trans hr.length_bytes)
  -- No sample is cut by the end of a row, so that samples may be turned around row by row.
  have hwidth : ∀ row ∈ rows, r.depth.width ∣ row.length := by
    intro row hrow
    rw [hrows row hrow, Raster.pixelSize]
    exact ⟨r.width * r.order.channels, by ac_rfl⟩
  have hsame : rows.flatMap (fileOrder r.depth) = r.bytes := by
    rw [← fileOrder_flatten hwidth, ← hbytes, fileOrder_fileOrder]
  refine ⟨fileOf r rows, ?_, ?_⟩
  · change write r = _
    rw [write, if_neg hr.not_empty]
    dsimp only
    rw [hbytes, pixelsOf_flatten hr.rowLength_pos hrows]
    rfl
  · exact (read_fileOf hr hcount hrows).trans (by rw [hsame])

end Png

end DriverBench.Raster
