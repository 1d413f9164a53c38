import DriverBench.Proofs.Expression.Usable
import DriverBench.Proofs.Session.Saving
/-!
# What a clone is made of

Memory is cloned in two steps, and a kernel in one. A buffer or an image of the same form is
created, with zeros in it, and then all of the original is copied into it; a kernel is entered once
more. Either way the driver is in the end the one that it was, with the entry of the original added
under the next handle (`gives_clonedObject`).
-/

namespace DriverBench

open Device Number Simulator

namespace Table

/-- A value that was just put in and is changed is put in as it is then. -/
theorem modify_insert {α : Type} (t : Table α) (key : Nat) (value : α) (f : α → α) :
    (t.insert key value).modify key f = t.insert key (f value) := by
  have hothers : (t.erase key).entries.map (fun e => if e.1 = key then (e.1, f e.2) else e) =
      (t.erase key).entries := by
    conv_rhs => rw [← List.map_id (t.erase key).entries]
    refine List.map_congr_left fun e he => if_neg ?_
    simpa using (List.mem_filter.1 he).2
  unfold insert modify
  rw [List.map_append, hothers, List.map_singleton, if_pos rfl]

end Table

namespace Simulator

/-- What is kept under a handle is in the table for things of its kind. -/
theorem State.get?_of_kept? {d : State} {h : Handle} {x : Entry} (hx : d.kept? h = some x) :
    match x with
    | .memory e => d.memories.get? h.id = some e
    | .program p => d.programs.get? h.id = some p
    | .kernel k => d.kernels.get? h.id = some k := by
  obtain ⟨hlookup, -⟩ := Option.filter_eq_some_iff.1 hx
  unfold lookup at hlookup
  split at hlookup <;> obtain ⟨y, hy, rfl⟩ := Option.map_eq_some_iff.1 hlookup <;> exact hy

variable {d : State}

theorem gives_copyBuffer (src dst : Memory) {source target : List UInt8}
    (hsrc : d.memories.get? src.handle.id = some ⟨source, none⟩)
    (hdst : d.memories.get? dst.handle.id = some ⟨target, none⟩)
    {srcOffset dstOffset length : Nat} (hin : srcOffset + length ≤ source.length)
    (hout : dstOffset + length ≤ target.length) :
    (copyBuffer src dst srcOffset dstOffset length).Gives d () (d.withBytes dst.handle.id
      (overwrite target dstOffset (slice source srcOffset length))) := by
  unfold Call.Gives copyBuffer storageOf
  rw [bind_assoc, Action.run_get_bind, hsrc]
  simp only [orFail, pure_bind, checkRange, Option.isSome_none, Bool.false_eq_true, if_false,
    if_pos hin]
  rw [bind_assoc, Action.run_get_bind, hdst]
  simp only [pure_bind, Option.isSome_none, Bool.false_eq_true, if_false, if_pos hout]
  rfl

/-- All of a buffer, put into another one of its size, is that buffer. -/
theorem overwrite_slice_all {source target : List UInt8} (h : target.length = source.length) :
    overwrite target 0 (slice source 0 source.length) = source := by
  rw [slice, List.drop_zero, List.take_length]
  exact overwrite_all h.symm

/-- All rows of an image, put into another one of its form, are that image. -/
theorem scatter_gather_rows {source target : List UInt8} {format : ImageFormat} {desc : ImageDesc}
    (hwidth : desc.width ≠ 0) (hsource : source.length = desc.exactSize format)
    (htarget : target.length = desc.exactSize format) :
    scatter target (rowsOf format desc (0, 0, 0) desc.region).1
      (gather source (desc.region.1 * format.pixelSize)
        (rowsOf format desc (0, 0, 0) desc.region).1) = source := by
  have hstretches : Stretches (desc.exactSize format) (desc.region.1 * format.pixelSize)
      (rowsOf format desc (0, 0, 0) desc.region).1 := stretches_rowsOf (fits_region hwidth)
  have hrows : Stretches target.length (desc.region.1 * format.pixelSize)
      (rowsOf format desc (0, 0, 0) desc.region).1 := htarget.symm ▸ hstretches
  have hinside : ∀ start ∈ (rowsOf format desc (0, 0, 0) desc.region).1,
      start + desc.region.1 * format.pixelSize ≤ source.length := hsource.symm ▸ hstretches.inside
  have hlength : (scatter target (rowsOf format desc (0, 0, 0) desc.region).1
      (gather source (desc.region.1 * format.pixelSize)
        (rowsOf format desc (0, 0, 0) desc.region).1)).length = target.length :=
    length_scatter hrows length_le_of_mem_gather
  refine List.ext_getElem? fun i => ?_
  by_cases hi : i < source.length
  · -- The byte is in one of the rows, at some place in it.
    have hpos : 0 < desc.width * format.pixelSize :=
      Nat.mul_pos (Nat.pos_of_ne_zero hwidth) format.pixelSize_pos
    rw [hsource, exactSize_eq_rows] at hi
    have hrow : i / (desc.width * format.pixelSize) < desc.region.2.1 :=
      Nat.div_lt_of_lt_mul (by rwa [Nat.mul_comm] at hi)
    have hplace : i % (desc.width * format.pixelSize) < desc.region.1 * format.pixelSize :=
      Nat.mod_lt _ hpos
    have hstart : (rowsOf format desc (0, 0, 0) desc.region).1[i / (desc.width *
        format.pixelSize)]? = some (((0 + i / (desc.width * format.pixelSize)) * desc.width + 0) *
          format.pixelSize) := getElem?_rowsOf hrow
    have hchunk := getElem?_gather source (desc.region.1 * format.pixelSize)
      (rowsOf format desc (0, 0, 0) desc.region).1 (i / (desc.width * format.pixelSize))
    rw [hstart] at hchunk
    have hbyte := getElem?_scatter hrows (length_of_mem_gather hinside) hstart hchunk hplace
    rw [getElem?_slice, if_pos hplace] at hbyte
    have hi' : ((0 + i / (desc.width * format.pixelSize)) * desc.width + 0) * format.pixelSize +
        i % (desc.width * format.pixelSize) = i := by
      rw [Nat.zero_add, Nat.add_zero, Nat.mul_assoc, Nat.mul_comm, Nat.div_add_mod]
    rwa [hi'] at hbyte
  · rw [List.getElem?_eq_none (Nat.le_of_not_lt hi), List.getElem?_eq_none]
    rw [hlength, htarget, ← hsource]
    exact Nat.le_of_not_lt hi

/-- **A whole image** that is copied to another one of its form is there as it is. -/
theorem gives_copyImage_whole (src dst : Memory) {source target : List UInt8}
    {format : ImageFormat} {desc : ImageDesc} (hwidth : desc.width ≠ 0)
    (hsrc : d.memories.get? src.handle.id = some ⟨source, some (format, desc)⟩)
    (hdst : d.memories.get? dst.handle.id = some ⟨target, some (format, desc)⟩)
    (hsource : source.length = desc.exactSize format)
    (htarget : target.length = desc.exactSize format) :
    (copyImage src dst (0, 0, 0) (0, 0, 0) desc.region).Gives d ()
      (d.withBytes dst.handle.id source) := by
  have hfits : fits desc (0, 0, 0) desc.region = true := fits_region hwidth
  have hcopied := scatter_gather_rows hwidth hsource htarget
  unfold Call.Gives copyImage storageOf
  rw [bind_assoc, Action.run_get_bind, hsrc]
  simp only [orFail, pure_bind, imageOf, checkedRows, if_pos hfits]
  rw [bind_assoc, Action.run_get_bind, hdst]
  simp only [pure_bind, ne_eq, not_true, if_false, if_pos hfits]
  exact congrArg (fun bytes => (Except.ok (), d.withBytes dst.handle.id bytes)) hcopied

theorem gives_cloneKernel {kernel : Handle} {k : Kernel}
    (hk : d.kernels.get? kernel.id = some k) :
    (cloneKernel kernel).Gives d (d.nextHandle .kernel, k.name) (d.add (.kernel k)) := by
  unfold Call.Gives cloneKernel
  rw [Action.run_get_bind, hk]
  rfl

theorem gives_createImage_empty {format : ImageFormat} {desc : ImageDesc} (hwidth : desc.width ≠ 0)
    (hsize : desc.byteSize format ≠ 0) (hlt : desc.byteSize format < allocationLimit) :
    (createImage format desc none).Gives d (.ofImage (d.nextHandle .image) format desc)
      (d.add (.memory ⟨List.replicate (desc.byteSize format) 0, some (format, desc)⟩)) := by
  unfold Call.Gives createImage zeroed
  rw [if_neg (by simp [hwidth, hsize]), if_neg (by simp), if_neg (Nat.not_le.2 hlt)]
  rfl

/-- What is added goes under an id of its own. -/
theorem get?_add_memory_of_le {e : Storage} {id : Nat} (h : id ≤ d.lastId) :
    (d.add (.memory e)).memories.get? id = d.memories.get? id :=
  (Table.get?_insert _ _ _ _).trans (if_neg (by omega))

/-- Memory that was just added and is written is added as it is then. -/
theorem State.withBytes_add (d : State) (e : Storage) (bytes : List UInt8) :
    (d.add (.memory e)).withBytes (d.lastId + 1) bytes = d.add (.memory { e with bytes }) :=
  congrArg (fun memories => { d with memories, lastId := d.lastId + 1 })
    (Table.modify_insert d.memories (d.lastId + 1) e _)

end Simulator

namespace Device

theorem Memory.Fits.width_ne_zero {m : Memory} {e : Storage} (h : m.Fits e)
    {format : ImageFormat} {desc : ImageDesc} (himage : m.image = some (format, desc)) :
    desc.width ≠ 0 := by
  intro hwidth
  have hsize := h.size_eq_exactSize himage
  rw [ImageDesc.exactSize, hwidth, Nat.zero_mul, Nat.zero_mul] at hsize
  exact absurd h.positive (by omega)

theorem Object.exists_handle {o : Object} (h : o.memory?.isSome ∨ o.kernel?.isSome) :
    ∃ k, o.handle? = some k := by
  cases o <;> simp_all [memory?, kernel?, handle?]

/-- A clone is of the form of what it was made of. -/
def Object.IsClone : Object → Object → Prop
  | .memory m, .memory m' => m'.size = m.size ∧ m'.image = m.image
  | .kernel _ name, .kernel _ name' => name' = name
  | _, _ => False

/-- A clone shows as what it was made of. -/
theorem Object.IsClone.typeTag_eq {o o' : Object} (h : o.IsClone o') : o'.typeTag = o.typeTag := by
  unfold IsClone at h
  split at h
  · rw [typeTag, typeTag, Memory.isImage, Memory.isImage, Memory.width, Memory.width, h.2]
  · rw [typeTag, typeTag, h]
  · exact h.elim

end Device

namespace Reading

variable {c c' : Cursor} {s s' : Session} {n : Nat} {d : State} {operand : Token}
  {source : Entity}

/-- **Memory that is made and then filled** is one new entry, with what it is filled with. -/
theorem gives_made_and_filled (hn : s.active = some n) (hd : s.fleet.get? n = some d)
    {make : Call Memory} {fill : Memory → Call Unit} {copy : Memory} {fresh : Storage}
    {bytes : List UInt8} (hid : copy.handle.id = d.lastId + 1)
    (hmake : make.Gives d copy (d.add (.memory fresh)))
    (hfill : (fill copy).Gives (d.add (.memory fresh)) ()
      ((d.add (.memory fresh)).withBytes copy.handle.id bytes)) (c : Cursor) :
    Gives (do
        let copy ← Action.drive make
        undoing copy.handle do
          Action.drive (fill copy)
          return copy)
      c s copy c (s.withDriver n (d.add (.memory { fresh with bytes }))) := by
  have hmade := Action.gives_drive hn hd hmake
  have hfilled := Action.gives_drive (s := s.withDriver n (d.add (.memory fresh))) hn
    (Session.get?_withDriver hd _) hfill
  rw [Session.withDriver_withDriver, hid, State.withBytes_add] at hfilled
  exact (gives_liftM hmade).bind (((gives_liftM hfilled).bind (gives_pure copy)).undoing _)

/-- **A copy of memory** of which what is said is so is a second entry like that of the original. -/
theorem gives_copyMemory (hn : s.active = some n) (hd : s.fleet.get? n = some d) {m : Memory}
    {e : Storage} (he : d.memories.get? m.handle.id = some e) (hle : m.handle.id ≤ d.lastId)
    (hfits : m.Fits e) (c : Cursor) :
    ∃ copy, Gives (copyMemory m) c s copy c (s.withDriver n (d.add (.memory e))) ∧
      copy.handle = d.nextHandle (Entry.memory e).kind ∧ copy.size = m.size ∧
      copy.image = m.image := by
  obtain ⟨bytes, image⟩ := e
  obtain rfl : image = m.image := hfits.image
  have hlength : bytes.length = m.size := hfits.length
  unfold copyMemory
  split
  · next format desc himage =>
    have hsize : m.size = desc.byteSize format := hfits.whole format desc himage
    have hexact : m.size = desc.exactSize format := hfits.size_eq_exactSize himage
    have hwidth := hfits.width_ne_zero himage
    have hcreate := gives_createImage_empty (d := d) hwidth
      (hsize ▸ Nat.ne_of_gt hfits.positive) (hsize ▸ hfits.bounded)
    rw [himage] at he ⊢
    let copy : Memory := .ofImage (d.nextHandle .image) format desc
    have hzeros : (List.replicate (desc.byteSize format) (0 : UInt8)).length =
        desc.exactSize format := by rw [List.length_replicate, ← hexact, hsize]
    have hcopy := gives_copyImage_whole m copy hwidth ((get?_add_memory_of_le hle).trans he)
      (get?_add_memory d _) (hlength.trans hexact) hzeros
    exact ⟨copy, gives_made_and_filled hn hd rfl hcreate hcopy c, rfl, hsize.symm, rfl⟩
  · next himage =>
    have hcreate := gives_createBuffer (d := d) (Nat.ne_of_gt hfits.positive) hfits.bounded
    rw [himage] at he ⊢
    have hin : 0 + m.size ≤ bytes.length := by omega
    have hout : 0 + m.size ≤ (List.replicate m.size (0 : UInt8)).length := by simp
    let copy : Memory := .ofBuffer (d.nextHandle .buffer) m.size
    have hcopy := gives_copyBuffer m copy ((get?_add_memory_of_le hle).trans he)
      (get?_add_memory d _) hin hout
    rw [← hlength, overwrite_slice_all List.length_replicate, hlength] at hcopy
    exact ⟨copy, gives_made_and_filled hn hd rfl hcreate hcopy c, rfl, rfl, rfl⟩

/-- **A clone** of what is kept under a handle, and of which what is said is so, is an object of the
same form under the next handle, and there the driver has got the same entry once more. -/
theorem gives_clonedObject (operand : Token) (hn : s.active = some n) (hd : s.fleet.get? n = some d)
    (hkind : source.object.memory?.isSome ∨ source.object.kernel?.isSome) {h : Handle} {x : Entry}
    (hh : source.object.handle? = some h) (hle : h.id ≤ d.lastId) (hx : d.kept? h = some x)
    (hfits : source.object.Fits x) {close : Token} (hclose : close.kind = .closeParen)
    (line : String) (rest : List Token) :
    ∃ o, Gives (clonedObject operand source) ⟨line, close :: rest⟩ s o ⟨line, rest⟩
        (s.withDriver n (d.add x)) ∧
      source.object.IsClone o ∧ o.handle? = some (d.nextHandle x.kind) := by
  have hget := State.get?_of_kept? hx
  unfold clonedObject
  cases ho : source.object with
  | memory m =>
    rw [ho] at hfits hh
    obtain rfl := Option.some.inj hh
    cases x with
    | memory e =>
      obtain ⟨copy, hcopy, hhandle, hsize, himage⟩ :=
        gives_copyMemory hn hd hget hle hfits ⟨line, rest⟩
      exact ⟨.memory copy, (gives_closeArguments hclose).bind (hcopy.bind (gives_pure _)),
        ⟨hsize, himage⟩, congrArg some hhandle⟩
    | program | kernel => exact hfits.elim
  | kernel k name =>
    rw [ho] at hfits hh
    obtain rfl := Option.some.inj hh
    cases x with
    | kernel entry =>
      have hclone := Action.gives_drive hn hd (gives_cloneKernel hget)
      exact ⟨_, (gives_closeArguments hclose).bind ((gives_liftM hclone).bind (gives_pure _)),
        hfits, rfl⟩
    | memory | program => exact hfits.elim
  | data | image | program => simp [ho, Object.memory?, Object.kernel?] at hkind

/-- What was cloned is memory or a kernel, and stands in front of a closing parenthesis. -/
theorem Gives.of_clonedObject {o : Object} (h : Gives (clonedObject operand source) c s o c' s') :
    (source.object.memory?.isSome ∨ source.object.kernel?.isSome) ∧
      ∃ close rest, close.kind = .closeParen ∧ c = ⟨c.line, close :: rest⟩ := by
  obtain ⟨_, c₁, s₁, hclosed, hmade⟩ := h.exists_of_bind
  obtain ⟨close, c₂, s₂, hrequire, hgiven⟩ := hclosed.exists_of_bind
  obtain ⟨rest, hclose, hpending, -, -⟩ := hrequire.of_require (by decide) (by decide)
  refine ⟨?_, close, rest, hclose, by rw [← hpending]⟩
  cases ho : source.object with
  | memory m => exact .inl rfl
  | kernel k name => exact .inr rfl
  | data | image | program =>
    rw [ho] at hmade
    cases hmade

end Reading

end DriverBench
