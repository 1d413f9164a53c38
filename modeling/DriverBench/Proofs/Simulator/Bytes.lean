import DriverBench.Simulator.Memory
/-!
# Stretches of bytes and pixels of an image

What the operations on memory do, byte by byte and pixel by pixel. The rows of a rectangle are
stretches of one length that lie one behind another, so that what is put into one of them is still
there when all are written. A pixel is a stretch whose place is counted in pixels, and so is a row;
the places of rows and pixels are compared in these units.
-/

namespace DriverBench.Simulator

open Device

/-! ## One stretch -/

theorem getElem?_slice (bytes : List UInt8) (start length i : Nat) :
    (slice bytes start length)[i]? = if i < length then bytes[start + i]? else none := by
  rw [slice, List.getElem?_take, List.getElem?_drop]

theorem length_slice {bytes : List UInt8} {start length : Nat}
    (h : start + length ≤ bytes.length) : (slice bytes start length).length = length := by
  rw [slice, List.length_take_of_le]
  rw [List.length_drop]
  omega

/-- Two stretches are the same if they are so byte by byte. -/
theorem slice_congr {bytes bytes' : List UInt8} {start start' length : Nat}
    (h : ∀ i < length, bytes[start + i]? = bytes'[start' + i]?) :
    slice bytes start length = slice bytes' start' length := by
  refine List.ext_getElem? fun i => ?_
  rw [getElem?_slice, getElem?_slice]
  split
  · next hi => exact h i hi
  · rfl

theorem slice_slice {bytes : List UInt8} {start length start' length' : Nat}
    (h : start' + length' ≤ length) :
    slice (slice bytes start length) start' length' = slice bytes (start + start') length' := by
  refine slice_congr fun i hi => ?_
  rw [getElem?_slice, if_pos (by omega), Nat.add_assoc]

theorem length_overwrite {bytes chunk : List UInt8} {start : Nat}
    (h : start + chunk.length ≤ bytes.length) :
    (overwrite bytes start chunk).length = bytes.length := by
  simp only [overwrite, List.length_append, List.length_take, List.length_drop]
  omega

theorem getElem?_overwrite {bytes chunk : List UInt8} {start : Nat}
    (h : start + chunk.length ≤ bytes.length) (i : Nat) :
    (overwrite bytes start chunk)[i]? =
      if start ≤ i ∧ i < start + chunk.length then chunk[i - start]? else bytes[i]? := by
  have hlength : (bytes.take start).length = start := List.length_take_of_le (by omega)
  rw [overwrite, List.append_assoc]
  by_cases hbefore : i < start
  · rw [List.getElem?_append_left (by omega), List.getElem?_take_of_lt hbefore, if_neg (by omega)]
  · rw [List.getElem?_append_right (by omega), hlength]
    by_cases hin : i < start + chunk.length
    · rw [List.getElem?_append_left (by omega), if_pos ⟨by omega, hin⟩]
    · rw [List.getElem?_append_right (by omega), List.getElem?_drop, if_neg (by omega)]
      congr 1
      omega

theorem overwrite_all {bytes chunk : List UInt8} (h : chunk.length = bytes.length) :
    overwrite bytes 0 chunk = chunk := by
  rw [overwrite, List.take_zero, List.nil_append, Nat.zero_add, h, List.drop_length,
    List.append_nil]

/-! ## Many stretches -/

/-- Stretches of one length, one behind another, in so many bytes. -/
structure Stretches (total length : Nat) (starts : List Nat) : Prop where
  ordered : starts.Pairwise fun s t => s + length ≤ t
  inside : ∀ s ∈ starts, s + length ≤ total

theorem Stretches.tail {total length start : Nat} {starts : List Nat}
    (h : Stretches total length (start :: starts)) : Stretches total length starts :=
  ⟨(List.pairwise_cons.1 h.ordered).2, fun s hs => h.inside s (List.mem_cons_of_mem _ hs)⟩

section Scatter

variable {bytes : List UInt8} {length : Nat} {starts : List Nat} {chunks : List (List UInt8)}

/-- Chunks that fit into their stretches leave as many bytes as there were. -/
theorem length_scatter (hs : Stretches bytes.length length starts)
    (hc : ∀ c ∈ chunks, c.length ≤ length) :
    (scatter bytes starts chunks).length = bytes.length := by
  induction starts generalizing bytes chunks with
  | nil => rfl
  | cons start starts ih =>
    cases chunks with
    | nil => rfl
    | cons chunk chunks =>
      have hchunk : chunk.length ≤ length := hc chunk List.mem_cons_self
      have hin : start + length ≤ bytes.length := hs.inside start List.mem_cons_self
      have hfirst : (overwrite bytes start chunk).length = bytes.length :=
        length_overwrite (by omega)
      rw [scatter, ih (hfirst.symm ▸ hs.tail) fun c h => hc c (List.mem_cons_of_mem _ h), hfirst]

/-- Between the stretches nothing changes. -/
theorem getElem?_scatter_of_outside (hs : Stretches bytes.length length starts)
    (hc : ∀ c ∈ chunks, c.length = length) {i : Nat}
    (hi : ∀ s ∈ starts, i < s ∨ s + length ≤ i) :
    (scatter bytes starts chunks)[i]? = bytes[i]? := by
  induction starts generalizing bytes chunks with
  | nil => rfl
  | cons start starts ih =>
    cases chunks with
    | nil => rfl
    | cons chunk chunks =>
      have hchunk : chunk.length = length := hc chunk List.mem_cons_self
      have hin : start + chunk.length ≤ bytes.length :=
        hchunk.symm ▸ hs.inside start List.mem_cons_self
      have hstart := hi start List.mem_cons_self
      rw [scatter, ih ((length_overwrite hin).symm ▸ hs.tail)
        (fun c h => hc c (List.mem_cons_of_mem _ h)) fun s h => hi s (List.mem_cons_of_mem _ h),
        getElem?_overwrite hin, if_neg (by omega)]

/-- In each stretch there is its chunk: those behind it do not reach it. -/
theorem getElem?_scatter (hs : Stretches bytes.length length starts)
    (hc : ∀ c ∈ chunks, c.length = length) {k start : Nat} {chunk : List UInt8}
    (hstart : starts[k]? = some start) (hchunk : chunks[k]? = some chunk) {j : Nat}
    (hj : j < length) : (scatter bytes starts chunks)[start + j]? = chunk[j]? := by
  induction starts generalizing bytes chunks k with
  | nil => cases hstart
  | cons first starts ih =>
    cases chunks with
    | nil => cases hchunk
    | cons chunk' chunks =>
      have hlength : chunk'.length = length := hc chunk' List.mem_cons_self
      have hin : first + chunk'.length ≤ bytes.length :=
        hlength.symm ▸ hs.inside first List.mem_cons_self
      have hrest : Stretches (overwrite bytes first chunk').length length starts :=
        (length_overwrite hin).symm ▸ hs.tail
      have hc' : ∀ c ∈ chunks, c.length = length := fun c h => hc c (List.mem_cons_of_mem _ h)
      cases k with
      | zero =>
        obtain rfl : first = start := Option.some.inj hstart
        obtain rfl : chunk' = chunk := Option.some.inj hchunk
        -- The stretches behind this one start where it ends or later: they do not touch its chunk.
        have hbehind := (List.pairwise_cons.1 hs.ordered).1
        rw [scatter, getElem?_scatter_of_outside hrest hc' fun s h =>
          .inl (by have := hbehind s h; omega), getElem?_overwrite hin, if_pos (by omega),
          Nat.add_sub_cancel_left]
      | succ k => exact ih hrest hc' hstart hchunk

end Scatter

theorem getElem?_gather (bytes : List UInt8) (length : Nat) (starts : List Nat) (k : Nat) :
    (gather bytes length starts)[k]? = starts[k]?.map fun start => slice bytes start length := by
  rw [gather, List.getElem?_map]

theorem length_le_of_mem_gather {bytes : List UInt8} {length : Nat} {starts : List Nat} :
    ∀ c ∈ gather bytes length starts, c.length ≤ length := by
  intro c hc
  obtain ⟨start, -, rfl⟩ := List.mem_map.1 hc
  exact List.length_take_le length _

theorem length_of_mem_gather {bytes : List UInt8} {length : Nat} {starts : List Nat}
    (h : ∀ s ∈ starts, s + length ≤ bytes.length) :
    ∀ c ∈ gather bytes length starts, c.length = length := by
  intro c hc
  obtain ⟨start, hstart, rfl⟩ := List.mem_map.1 hc
  exact length_slice (h start hstart)

theorem getElem?_chunksOf (length : Nat) {count k : Nat} (data : List UInt8) (hk : k < count) :
    (chunksOf length count data)[k]? = some (slice data (k * length) length) := by
  induction count generalizing k data with
  | zero => omega
  | succ count ih =>
    cases k with
    | zero => simp [chunksOf, slice]
    | succ k =>
      rw [chunksOf, List.getElem?_cons_succ, ih _ (by omega), slice, slice, List.drop_drop,
        Nat.succ_mul, Nat.add_comm]

theorem length_of_mem_chunksOf {length count : Nat} {data : List UInt8}
    (h : count * length ≤ data.length) : ∀ c ∈ chunksOf length count data, c.length = length := by
  induction count generalizing data with
  | zero => exact fun c hc => nomatch hc
  | succ count ih =>
    rw [Nat.succ_mul] at h
    intro c hc
    rcases List.mem_cons.1 hc with rfl | hc
    · exact List.length_take_of_le (by omega)
    · exact ih (by rw [List.length_drop]; omega) c hc

/-- Chunks of one length behind each other: each is a stretch of the whole. -/
theorem slice_flatten {chunks : List (List UInt8)} {length : Nat}
    (hc : ∀ c ∈ chunks, c.length = length) {k : Nat} {chunk : List UInt8}
    (hk : chunks[k]? = some chunk) (rest : List UInt8) :
    slice (chunks.flatten ++ rest) (k * length) length = chunk := by
  induction chunks generalizing k with
  | nil => cases hk
  | cons first chunks ih =>
    have hlength : first.length = length := hc first List.mem_cons_self
    rw [slice, List.flatten_cons, List.append_assoc, ← hlength]
    cases k with
    | zero =>
      obtain rfl : first = chunk := Option.some.inj hk
      rw [Nat.zero_mul, List.drop_zero, List.take_left]
    | succ k =>
      rw [Nat.succ_mul, Nat.add_comm, ← List.drop_drop, List.drop_left, hlength]
      exact ih (fun c h => hc c (List.mem_cons_of_mem _ h)) hk

theorem length_flatten {chunks : List (List UInt8)} {length : Nat}
    (hc : ∀ c ∈ chunks, c.length = length) : chunks.flatten.length = chunks.length * length := by
  rw [List.length_flatten, List.map_congr_left hc, List.map_const', List.sum_replicate_nat]

/-! ## Pixels -/

/-- The pixel of a number, in bytes that are pixels of one format. -/
def pixelOf (format : ImageFormat) (bytes : List UInt8) (n : Nat) : List UInt8 :=
  slice bytes (n * format.pixelSize) format.pixelSize

/-- A rectangle covers the pixel in a column and a row. -/
def Covers (origin : Origin) (region : Region) (x y : Nat) : Prop :=
  origin.1 ≤ x ∧ x < origin.1 + region.1 ∧ origin.2.1 ≤ y ∧ y < origin.2.1 + region.2.1

instance (origin : Origin) (region : Region) (x y : Nat) : Decidable (Covers origin region x y) :=
  inferInstanceAs (Decidable (_ ∧ _ ∧ _ ∧ _))

theorem fits_iff {desc : ImageDesc} {origin : Origin} {region : Region} :
    fits desc origin region = true ↔
      origin.1 + region.1 ≤ desc.width ∧ origin.2.1 + region.2.1 ≤ desc.rows ∧
        origin.2.2 = 0 ∧ region.2.2 = 1 ∧ region.1 ≠ 0 ∧ region.2.1 ≠ 0 := by
  simp [fits, and_assoc]

/-- A row of pixels ends where the next one starts, or before a later one. -/
theorem row_le_of_lt {y y' : Nat} (width : Nat) (h : y < y') : y * width + width ≤ y' * width := by
  rw [← Nat.succ_mul]
  exact Nat.mul_le_mul_right width h

section Pixels

variable {format : ImageFormat} {desc : ImageDesc} {origin : Origin} {region : Region}

theorem pixelOf_slice {bytes : List UInt8} {n i count : Nat} (hi : i < count) :
    pixelOf format (slice bytes (n * format.pixelSize) (count * format.pixelSize)) i =
      pixelOf format bytes (n + i) := by
  rw [pixelOf, slice_slice (row_le_of_lt format.pixelSize hi), ← Nat.add_mul, pixelOf]

/-- Where the rows of a rectangle start, in pixels. -/
theorem getElem?_rowsOf {k : Nat} (hk : k < region.2.1) :
    (rowsOf format desc origin region).1[k]? =
      some (((origin.2.1 + k) * desc.width + origin.1) * format.pixelSize) := by
  simp only [rowsOf, List.getElem?_map, List.getElem?_range hk, Option.map_some, Nat.add_mul,
    Nat.mul_assoc]

theorem mem_rowsOf {start : Nat} (h : start ∈ (rowsOf format desc origin region).1) :
    ∃ k < region.2.1,
      start = ((origin.2.1 + k) * desc.width + origin.1) * format.pixelSize := by
  obtain ⟨k, hk, rfl⟩ := List.mem_map.1 h
  exact ⟨k, List.mem_range.1 hk, by simp only [Nat.add_mul, Nat.mul_assoc]⟩

/-- The rows of a rectangle of an image lie one behind another, in the bytes of the image. -/
theorem stretches_rowsOf (hfits : fits desc origin region = true) :
    Stretches (desc.exactSize format) (region.1 * format.pixelSize)
      (rowsOf format desc origin region).1 := by
  obtain ⟨hx, hy, -⟩ := fits_iff.1 hfits
  refine ⟨List.pairwise_map.2 (List.pairwise_lt_range.imp fun {k k'} hk => ?_), fun s hs => ?_⟩
  -- A row of the rectangle ends in its row of the image, and the next one starts in a later row.
  · have hrow := row_le_of_lt (desc.width * format.pixelSize) (Nat.add_lt_add_left hk origin.2.1)
    have hlength := Nat.mul_le_mul_right format.pixelSize hx
    rw [Nat.add_mul] at hlength
    omega
  · obtain ⟨k, hk, rfl⟩ := mem_rowsOf hs
    have hrow := row_le_of_lt desc.width (Nat.add_lt_add_left hk origin.2.1)
    have hlast : (origin.2.1 + region.2.1) * desc.width ≤ desc.rows * desc.width :=
      Nat.mul_le_mul_right _ hy
    rw [← Nat.add_mul, ImageDesc.exactSize, Nat.mul_comm desc.width]
    exact Nat.mul_le_mul_right _ (by omega)

variable {bytes : List UInt8} {chunks : List (List UInt8)}

/-- **A rectangle is written**: a pixel that it covers is the pixel in its row of the data. -/
theorem pixelOf_scatter (hfits : fits desc origin region = true)
    (hlength : bytes.length = desc.exactSize format)
    (hc : ∀ c ∈ chunks, c.length = region.1 * format.pixelSize) {x y : Nat} {chunk : List UInt8}
    (hcovers : Covers origin region x y) (hchunk : chunks[y - origin.2.1]? = some chunk) :
    pixelOf format (scatter bytes (rowsOf format desc origin region).1 chunks)
        (y * desc.width + x) =
      pixelOf format chunk (x - origin.1) := by
  obtain ⟨hx, hx', hy, hy'⟩ := hcovers
  have hrows : Stretches bytes.length (region.1 * format.pixelSize)
      (rowsOf format desc origin region).1 := hlength.symm ▸ stretches_rowsOf hfits
  refine slice_congr fun i hi => ?_
  -- The byte of the pixel is the one at the same place of the chunk that its row takes.
  have hin : (x - origin.1) * format.pixelSize + i < region.1 * format.pixelSize := by
    have := row_le_of_lt format.pixelSize (show x - origin.1 < region.1 by omega)
    omega
  rw [← getElem?_scatter hrows hc (getElem?_rowsOf (by omega)) hchunk hin, ← Nat.add_assoc,
    ← Nat.add_mul]
  congr 3
  rw [Nat.add_sub_cancel' hy, Nat.add_assoc, Nat.add_sub_cancel' hx]

/-- A pixel that the rectangle does not cover stays. -/
theorem pixelOf_scatter_of_not_covers (hfits : fits desc origin region = true)
    (hlength : bytes.length = desc.exactSize format)
    (hc : ∀ c ∈ chunks, c.length = region.1 * format.pixelSize) {x y : Nat} (hx : x < desc.width)
    (hcovers : ¬ Covers origin region x y) :
    pixelOf format (scatter bytes (rowsOf format desc origin region).1 chunks)
        (y * desc.width + x) =
      pixelOf format bytes (y * desc.width + x) := by
  have hrows : Stretches bytes.length (region.1 * format.pixelSize)
      (rowsOf format desc origin region).1 := hlength.symm ▸ stretches_rowsOf hfits
  refine slice_congr fun i hi => getElem?_scatter_of_outside hrows hc fun s hs => ?_
  obtain ⟨k, hk, rfl⟩ := mem_rowsOf hs
  -- In pixels: the number is in front of the row, or behind its end.
  have hapart : y * desc.width + x < (origin.2.1 + k) * desc.width + origin.1 ∨
      (origin.2.1 + k) * desc.width + origin.1 + region.1 ≤ y * desc.width + x := by
    have hwidth := (fits_iff.1 hfits).1
    rcases Nat.lt_trichotomy y (origin.2.1 + k) with hlt | heq | hgt
    · have := row_le_of_lt desc.width hlt
      omega
    · unfold Covers at hcovers
      subst heq
      omega
    · have := row_le_of_lt desc.width hgt
      omega
  rcases hapart with hbefore | hbehind
  · have := row_le_of_lt format.pixelSize hbefore
    omega
  · have := Nat.mul_le_mul_right format.pixelSize hbehind
    rw [Nat.add_mul _ region.1] at this
    omega

end Pixels

end DriverBench.Simulator
