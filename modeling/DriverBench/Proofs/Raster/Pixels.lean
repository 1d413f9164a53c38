import DriverBench.Proofs.Simulator.Bytes
import DriverBench.Raster.Codec
/-!
# Rasters that picture files can hold

Bytes that are cut into pieces of one length are these pieces in their order, and pieces behind each
other are cut into themselves. A raster can be held by a picture file if all its pixels are there,
its sides are numbers of 32 bits and it is within the limit of what is read. A container keeps a
raster if it reads back what it wrote.
-/

namespace DriverBench.Raster

open Device Simulator

/-! ## Cutting -/

section Cutting

variable {size : Nat} (hsize : 0 < size)
include hsize

theorem pixelsOf_nil : pixelsOf size [] = [] := by
  rw [pixelsOf, dif_pos (by simp [hsize])]

theorem pixelsOf_append {piece : List UInt8} (h : piece.length = size) (rest : List UInt8) :
    pixelsOf size (piece ++ rest) = piece :: pixelsOf size rest := by
  rw [pixelsOf, dif_neg, List.take_left' h, List.drop_left' h]
  rw [List.take_left' h]
  omega

/-- Pieces behind each other are cut into themselves. -/
theorem pixelsOf_flatten {pieces : List (List UInt8)} (h : ∀ p ∈ pieces, p.length = size) :
    pixelsOf size pieces.flatten = pieces := by
  induction pieces with
  | nil => exact pixelsOf_nil hsize
  | cons piece pieces ih =>
    rw [List.flatten_cons, pixelsOf_append hsize (h piece List.mem_cons_self),
      ih fun p hp => h p (List.mem_cons_of_mem _ hp)]

/-- The pieces of the first bytes are stretches of them. -/
theorem pixelsOf_take {n : Nat} {bytes : List UInt8} (h : n * size ≤ bytes.length) :
    pixelsOf size (bytes.take (n * size)) =
      (List.range n).map fun i => slice bytes (i * size) size := by
  induction n generalizing bytes with
  | zero => rw [Nat.zero_mul, List.take_zero, pixelsOf_nil hsize, List.range_zero, List.map_nil]
  | succ n ih =>
    rw [Nat.succ_mul] at h ⊢
    have hfirst : (bytes.take size).length = size := List.length_take_of_le (by omega)
    have hrest : n * size ≤ (bytes.drop size).length := by
      rw [List.length_drop]
      omega
    rw [Nat.add_comm, List.take_add, pixelsOf_append hsize hfirst, ih hrest,
      List.range_succ_eq_map, List.map_cons, List.map_map, Nat.zero_mul]
    congr 1
    refine List.map_congr_left fun i _ => ?_
    rw [Function.comp, slice, slice, List.drop_drop, Nat.succ_mul, Nat.add_comm size]

end Cutting

/-- Bytes that are as many as some pieces are such pieces. -/
theorem exists_pieces {size n : Nat} {bytes : List UInt8} (h : bytes.length = n * size) :
    ∃ pieces : List (List UInt8), bytes = pieces.flatten ∧ pieces.length = n ∧
      ∀ p ∈ pieces, p.length = size := by
  induction n generalizing bytes with
  | zero =>
    obtain rfl : bytes = [] := List.length_eq_zero_iff.1 (by omega)
    exact ⟨[], rfl, rfl, nofun⟩
  | succ n ih =>
    rw [Nat.succ_mul] at h
    have hrest : (bytes.drop size).length = n * size := by
      rw [List.length_drop]
      omega
    obtain ⟨pieces, hpieces, hlength, hsizes⟩ := ih hrest
    refine ⟨bytes.take size :: pieces, ?_, by rw [List.length_cons, hlength], ?_⟩
    · rw [List.flatten_cons, ← hpieces, List.take_append_drop]
    · intro p hp
      rcases List.mem_cons.1 hp with rfl | hp
      · exact List.length_take_of_le (by omega)
      · exact hsizes p hp

/-! ## What is kept -/

/-- All pixels of a raster are there, there are some, their rows and columns are counted in 32 bits
and they are within the limit of what is read. -/
structure Storable (r : Raster) : Prop where
  wellFormed : r.WellFormed
  width_pos : 0 < r.width
  height_pos : 0 < r.height
  width_lt : r.width < sideBound
  height_lt : r.height < sideBound
  limit : r.bytes.length ≤ readLimit

theorem pixelSize_pos (r : Raster) : 0 < r.pixelSize := by
  rw [Raster.pixelSize]
  cases r.order <;> cases r.depth <;> decide

namespace Storable

variable {r : Raster} (hr : r.Storable)
include hr

theorem not_empty : ¬ (r.width = 0 ∨ r.height = 0) := by
  have := hr.width_pos
  have := hr.height_pos
  omega

/-- A row has bytes. -/
theorem rowLength_pos : 0 < r.width * r.pixelSize :=
  Nat.mul_pos hr.width_pos r.pixelSize_pos

/-- The bytes are those of the rows. -/
theorem length_bytes : r.bytes.length = r.height * (r.width * r.pixelSize) := by
  rw [hr.wellFormed, Nat.mul_left_comm, Nat.mul_assoc]

end Storable

/-- A container writes a raster, and reads what it wrote as that raster. -/
def Container.Keeps (c : Container) (r : Raster) : Prop :=
  ∃ file, c.write r = .ok file ∧ c.read file = .ok r

end DriverBench.Raster
