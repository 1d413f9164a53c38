import DriverBench.Proofs.Simulator.Request
/-!
# Memory on a machine of words

The operations on memory once more, as a machine does them whose numbers are words below `2 ^ 64`
and whose bytes lie in arrays: a rectangle is gone through row by row with a cursor, a reading goes
into an output buffer of its caller, a sum or a product that is no word is a trap, and so is a
stretch of bytes that does not lie in its array. A driver that requests lead to never springs a
trap, whatever numbers and whatever handles it is given: the machine does just what the calls say.
-/

namespace DriverBench.Simulator

open Device

/-! ## Words and arrays -/

namespace Word

/-- The sum of two words, if it is one. -/
def add? (a b : Nat) : Option Nat :=
  if a + b < sizeBound then some (a + b) else none

/-- The product of two words, if it is one. -/
def mul? (a b : Nat) : Option Nat :=
  if a * b < sizeBound then some (a * b) else none

theorem add?_eq {a b : Nat} (h : a + b < sizeBound) : add? a b = some (a + b) :=
  if_pos h

theorem mul?_eq {a b : Nat} (h : a * b < sizeBound) : mul? a b = some (a * b) :=
  if_pos h

/-- Whether a stretch ends at a bound or before it. One whose end is no word does not. -/
def endsWithin (start length bound : Nat) : Bool :=
  (add? start length).any (· ≤ bound)

/-- Where the bound is a word, nothing is lost by asking for the end to be one. -/
theorem endsWithin_eq {start length bound : Nat} (h : bound < sizeBound) :
    endsWithin start length bound = decide (start + length ≤ bound) := by
  unfold endsWithin add?
  split
  · rfl
  · next hover =>
    have hbeyond : ¬ start + length ≤ bound := by omega
    simp [hbeyond]

end Word

/-- The stretch of an array from `start` on. -/
def load? (bytes : List UInt8) (start length : Nat) : Option (List UInt8) := do
  let stop ← Word.add? start length
  if stop ≤ bytes.length then some (slice bytes start length) else none

/-- The array with a stretch replaced by a chunk, which must be as long as the stretch. -/
def store? (bytes : List UInt8) (start length : Nat) (chunk : List UInt8) :
    Option (List UInt8) := do
  let stop ← Word.add? start length
  if stop ≤ bytes.length ∧ chunk.length = length then some (overwrite bytes start chunk) else none

theorem load?_eq {bytes : List UInt8} {start length : Nat} (hword : start + length < sizeBound)
    (h : start + length ≤ bytes.length) :
    load? bytes start length = some (slice bytes start length) := by
  rw [load?, Word.add?_eq hword, Option.bind_eq_bind, Option.bind_some, if_pos h]

theorem store?_eq {bytes chunk : List UInt8} {start length : Nat}
    (hword : start + length < sizeBound) (h : start + length ≤ bytes.length)
    (hchunk : chunk.length = length) :
    store? bytes start length chunk = some (overwrite bytes start chunk) := by
  rw [store?, Word.add?_eq hword, Option.bind_eq_bind, Option.bind_some, if_pos ⟨h, hchunk⟩]

/-! ## The machine -/

namespace Machine

/-- Why an operation ends before its end: the driver refuses it, or it runs into a trap. -/
inductive Halt where
  | refused (e : DriverError)
  | trapped
  deriving DecidableEq, Repr

/-- What an operation works on: the driver, and the output buffer of its caller. -/
structure Desk where
  driver : State
  out : List UInt8

end Machine

/-- An operation of the machine. One that ends before its end has still run up to there. -/
abbrev Machine (α : Type) := ExceptT Machine.Halt (StateM Machine.Desk) α

namespace Machine

/-- A call of the driver that does not touch the output buffer. -/
def ofCall {α : Type} (c : Call α) : Machine α := fun w =>
  match c.run.run w.driver with
  | (.ok a, d) => (.ok a, { w with driver := d })
  | (.error e, d) => (.error (.refused e), { w with driver := d })

/-- A value that must be there for there to be no trap. -/
def orTrap {α : Type} : Option α → Machine α
  | some a => pure a
  | none => throw .trapped

/-- Refuses with a status. -/
def refuse {α : Type} (call : String) (status : Status) : Machine α :=
  ofCall (fail call status)

/-- Checks that a stretch of bytes lies in a buffer. -/
def checkRange (e : Storage) (offset length : Nat) : Machine Unit :=
  if e.image.isSome then refuse "clEnqueueBuffer" .invalidMemObject
  else if Word.endsWithin offset length e.bytes.length then pure ()
  else refuse "clEnqueueBuffer" .invalidValue

/-- Whether a rectangle is not empty and lies in an image. -/
def fits (desc : ImageDesc) (origin : Origin) (region : Region) : Bool :=
  Word.endsWithin origin.1 region.1 desc.width &&
    Word.endsWithin origin.2.1 region.2.1 desc.rows &&
    origin.2.2 == 0 && region.2.2 == 1 && region.1 != 0 && region.2.1 != 0

/-- The rows of a rectangle, each with its start and its length in bytes. -/
def rows? (format : ImageFormat) (desc : ImageDesc) (origin : Origin) (region : Region) :
    Option (List (Nat × Nat)) := do
  let pitch ← Word.mul? desc.width format.pixelSize
  (List.range region.2.1).mapM fun row => do
    let above ← Word.mul? (← Word.add? origin.2.1 row) pitch
    let left ← Word.mul? origin.1 format.pixelSize
    return (← Word.add? above left, ← Word.mul? region.1 format.pixelSize)

/-- The rows of a rectangle, if it lies in the image. -/
def checkedRows (format : ImageFormat) (desc : ImageDesc) (origin : Origin) (region : Region) :
    Machine (List (Nat × Nat)) :=
  if fits desc origin region then orTrap (rows? format desc origin region)
  else refuse "clEnqueueImage" .invalidValue

/-- The sum of the lengths of rows. -/
def total? (rows : List (Nat × Nat)) : Option Nat :=
  rows.foldlM (fun sum row => Word.add? sum row.2) 0

/-- Changes the bytes of a memory object in place. -/
def edit (m : Memory) (change : List UInt8 → Option (List UInt8)) : Machine Unit := do
  let target ← ofCall (storageOf m)
  ofCall (putBytes m (← orTrap (change target.bytes)))

/-- Changes the output buffer in place. -/
def fill (change : List UInt8 → Option (List UInt8)) : Machine Unit := do
  let out ← orTrap (change (← get).out)
  modify fun w => { w with out }

/-- Does something for each row, with a cursor that goes on by the lengths of the rows. -/
def forRows (step : Nat → Nat × Nat → Machine Unit) : List (Nat × Nat) → Nat → Machine Unit
  | [], _ => pure ()
  | row :: rows, cursor => do
    step cursor row
    forRows step rows (← orTrap (Word.add? cursor row.2))

/-- Puts one chunk into each row. -/
def putChunks (m : Memory) : List (Nat × Nat) → List (List UInt8) → Machine Unit
  | row :: rows, chunk :: chunks => do
    edit m fun bytes => store? bytes row.1 row.2 chunk
    putChunks m rows chunks
  | _, _ => pure ()

/-- Writes bytes into a buffer. -/
def writeBuffer (m : Memory) (offset : Nat) (data : List UInt8) : Machine Unit := do
  let target ← ofCall (storageOf m)
  checkRange target offset data.length
  edit m fun bytes => store? bytes offset data.length data

/-- Reads bytes of a buffer into the output buffer, which says how many. -/
def readBuffer (m : Memory) (offset : Nat) : Machine Unit := do
  let source ← ofCall (storageOf m)
  let length := (← get).out.length
  checkRange source offset length
  fill fun out => do store? out 0 length (← load? source.bytes offset length)

/-- Copies bytes between buffers, through a chunk of their own. -/
def copyBuffer (src dst : Memory) (srcOffset dstOffset length : Nat) : Machine Unit := do
  let source ← ofCall (storageOf src)
  checkRange source srcOffset length
  let chunk ← orTrap (load? source.bytes srcOffset length)
  let target ← ofCall (storageOf dst)
  checkRange target dstOffset length
  edit dst fun bytes => store? bytes dstOffset length chunk

/-- Writes pixels into a rectangle of an image. -/
def writeImage (m : Memory) (origin : Origin) (region : Region) (data : List UInt8) :
    Machine Unit := do
  let target ← ofCall (storageOf m)
  let (format, desc) ← ofCall (imageOf target)
  let rows ← checkedRows format desc origin region
  let needed ← orTrap (total? rows)
  if data.length < needed then refuse "clEnqueueWriteImage" .invalidValue
  forRows (fun cursor row =>
    edit m fun bytes => do store? bytes row.1 row.2 (← load? data cursor row.2)) rows 0

/-- Reads the pixels of a rectangle to the front of the output buffer. -/
def readImage (m : Memory) (origin : Origin) (region : Region) : Machine Unit := do
  let source ← ofCall (storageOf m)
  let (format, desc) ← ofCall (imageOf source)
  let rows ← checkedRows format desc origin region
  let needed ← orTrap (total? rows)
  if (← get).out.length < needed then refuse "clEnqueueReadImage" .invalidValue
  forRows (fun cursor row =>
    fill fun out => do store? out cursor row.2 (← load? source.bytes row.1 row.2)) rows 0

/-- Copies a rectangle between images of one format, through a chunk for each row. -/
def copyImage (src dst : Memory) (srcOrigin dstOrigin : Origin) (region : Region) :
    Machine Unit := do
  let source ← ofCall (storageOf src)
  let (srcFormat, srcDesc) ← ofCall (imageOf source)
  let srcRows ← checkedRows srcFormat srcDesc srcOrigin region
  let chunks ← orTrap (srcRows.mapM fun row => load? source.bytes row.1 row.2)
  let target ← ofCall (storageOf dst)
  let (dstFormat, dstDesc) ← ofCall (imageOf target)
  if dstFormat ≠ srcFormat then refuse "clEnqueueCopyImage" .invalidImageFormatDescriptor
  let dstRows ← checkedRows dstFormat dstDesc dstOrigin region
  putChunks dst dstRows chunks

/-! ## What the machine does is what the calls say -/

/-- An operation does what a call says: it leaves the driver that the call leaves, and it is refused
where the call fails, with the output buffer as it was. There is no trap. If the call goes through,
its answer tells what is in the output buffer then. -/
def Performs {α : Type} (op : Machine Unit) (c : Call α) (filled : α → List UInt8) (d : State)
    (out : List UInt8) : Prop :=
  op.run.run ⟨d, out⟩ = match c.run.run d with
    | (.ok a, d') => (.ok (), ⟨d', filled a⟩)
    | (.error e, d') => (.error (.refused e), ⟨d', out⟩)

section Rules

variable {α β : Type} {d : State} {out : List UInt8} {filled : α → List UInt8}

theorem run_ofCall (c : Call α) (w : Desk) :
    (ofCall c).run.run w = match c.run.run w.driver with
      | (.ok a, d) => (.ok a, { w with driver := d })
      | (.error e, d) => (.error (.refused e), { w with driver := d }) :=
  rfl

/-- What follows a look goes on with what was seen. -/
theorem performs_bind {c : Call β} {A : State → β → Prop} (hc : Looks c A) {f : β → Machine Unit}
    {g : β → Call α} (h : ∀ x, A d x → Performs (f x) (g x) filled d out) :
    Performs (ofCall c >>= f) (c >>= g) filled d out := by
  have hlook := hc d d rfl
  unfold Performs
  rw [Action.run_bind, Action.run_bind, run_ofCall]
  dsimp only
  rcases hr : c.run.run d with ⟨e | x, d'⟩
  · rfl
  · rw [hr] at hlook
    obtain ⟨hx, rfl⟩ := hlook
    exact h x hx

/-- What is refused by the machine is refused by the driver. -/
theorem performs_unless {p : Prop} [Decidable p] {call : String} {status : Status}
    {op : Machine Unit} {c : Call α} (h : ¬ p → Performs op c filled d out) :
    Performs (if p then (refuse call status : Machine PUnit) >>= fun _ => op else op)
      (if p then (fail call status : Call PUnit) >>= fun _ => c else c) filled d out := by
  by_cases hp : p
  · rw [if_pos hp, if_pos hp]
    rfl
  · rw [if_neg hp, if_neg hp]
    exact h hp

theorem checkRange_eq {e : Storage} (h : e.bytes.length < sizeBound) (offset length : Nat) :
    checkRange e offset length = ofCall (Simulator.checkRange e offset length) := by
  unfold checkRange Simulator.checkRange
  rw [Word.endsWithin_eq h]
  by_cases himage : e.image.isSome = true
  · rw [if_pos himage, if_pos himage]
    rfl
  · rw [if_neg himage, if_neg himage]
    by_cases hle : offset + length ≤ e.bytes.length
    · rw [if_pos (by simpa using hle), if_pos hle]
      rfl
    · rw [if_neg (by simpa using hle), if_neg hle]
      rfl

theorem fits_eq {format : ImageFormat} {desc : ImageDesc}
    (hsize : desc.exactSize format < sizeBound) (origin : Origin) (region : Region) :
    fits desc origin region = Simulator.fits desc origin region := by
  have hpixel := format.pixelSize_pos
  unfold ImageDesc.exactSize at hsize
  by_cases hwidth : desc.width = 0
  · -- Nothing fits into no columns, whatever the number of rows is.
    have hcolumns : ¬ (origin.1 + region.1 ≤ desc.width ∧ region.1 ≠ 0) := by omega
    rw [fits, Simulator.fits, Word.endsWithin_eq (hwidth ▸ by decide), Bool.eq_iff_iff]
    simp only [Bool.and_eq_true, decide_eq_true_eq, bne_iff_ne]
    exact iff_of_false (fun h => hcolumns ⟨h.1.1.1.1.1, h.1.2⟩)
      fun h => hcolumns ⟨h.1.1.1.1.1, h.1.2⟩
  · have hrows : 0 < desc.rows := Nat.le_max_right _ _
    have harea : desc.width * desc.rows ≤ desc.width * desc.rows * format.pixelSize :=
      Nat.le_mul_of_pos_right _ hpixel
    have hwidth' : desc.width ≤ desc.width * desc.rows := Nat.le_mul_of_pos_right _ hrows
    have hrows' : desc.rows ≤ desc.width * desc.rows := Nat.le_mul_of_pos_left _ (by omega)
    rw [fits, Simulator.fits, Word.endsWithin_eq (by omega), Word.endsWithin_eq (by omega)]

end Rules

theorem mapM_eq_some_map {α β : Type} {f : α → Option β} {g : α → β} {l : List α}
    (h : ∀ x ∈ l, f x = some (g x)) : l.mapM f = some (l.map g) := by
  induction l with
  | nil => rfl
  | cons x rest ih =>
    rw [List.mapM_cons, h x List.mem_cons_self, ih fun y hy => h y (List.mem_cons_of_mem _ hy)]
    rfl

/-- The rows of a rectangle in an image whose size is a word are given by words. -/
theorem rows?_eq {format : ImageFormat} {desc : ImageDesc} {origin : Origin} {region : Region}
    (hfits : Simulator.fits desc origin region = true)
    (hsize : desc.exactSize format < sizeBound) :
    rows? format desc origin region =
      some ((rowsOf format desc origin region).1.map (·, region.1 * format.pixelSize)) := by
  obtain ⟨hx, hy, -, -, hcolumns, -⟩ := fits_iff.1 hfits
  have hpixel := format.pixelSize_pos
  -- All numbers on the way are bounded by the size: a pitch by that of one row or more, and a row
  -- by that of rows with a byte or more.
  have hline : (origin.1 + region.1) * format.pixelSize ≤ desc.width * format.pixelSize :=
    Nat.mul_le_mul_right _ hx
  rw [Nat.add_mul] at hline
  have hsizes : desc.rows * (desc.width * format.pixelSize) = desc.exactSize format := by
    rw [Nat.mul_left_comm, ← Nat.mul_assoc, ImageDesc.exactSize]
  have hpitch : desc.width * format.pixelSize ≤ desc.exactSize format :=
    hsizes ▸ Nat.le_mul_of_pos_left _ (Nat.le_max_right _ _)
  have hrows : desc.rows ≤ desc.exactSize format :=
    hsizes ▸ Nat.le_mul_of_pos_right _ (Nat.mul_pos (by omega) hpixel)
  unfold rows?
  rw [Word.mul?_eq (by omega), Option.bind_eq_bind, Option.bind_some, rowsOf, List.map_map]
  refine mapM_eq_some_map fun row hmem => ?_
  have hrow : origin.2.1 + row + 1 ≤ desc.rows := by
    have := List.mem_range.1 hmem
    omega
  have hend := Nat.mul_le_mul_right (desc.width * format.pixelSize) hrow
  rw [hsizes, Nat.succ_mul] at hend
  have hy' : Word.add? origin.2.1 row = some _ := Word.add?_eq (by omega)
  have habove : Word.mul? (origin.2.1 + row) (desc.width * format.pixelSize) = some _ :=
    Word.mul?_eq (by omega)
  have hleft : Word.mul? origin.1 format.pixelSize = some _ := Word.mul?_eq (by omega)
  have hstart : Word.add? ((origin.2.1 + row) * (desc.width * format.pixelSize))
      (origin.1 * format.pixelSize) = some _ := Word.add?_eq (by omega)
  have hlength : Word.mul? region.1 format.pixelSize = some _ := Word.mul?_eq (by omega)
  simp only [hy', habove, hleft, hstart, hlength, Option.bind_eq_bind, Option.bind_some]
  rfl

theorem total?_map {starts : List Nat} {length sum : Nat}
    (h : sum + starts.length * length < sizeBound) :
    (starts.map (·, length)).foldlM (fun sum row => Word.add? sum row.2) sum =
      some (sum + starts.length * length) := by
  induction starts generalizing sum with
  | nil => simp
  | cons start starts ih =>
    rw [List.length_cons, Nat.succ_mul] at h ⊢
    rw [List.map_cons, List.foldlM_cons, Word.add?_eq (by dsimp only; omega), Option.bind_eq_bind,
      Option.bind_some, ih (by dsimp only; omega)]
    congr 1
    dsimp only
    omega

/-! ### Rows, one after another -/

section Loops

variable {d : State} {out : List UInt8}

theorem run_orTrap_bind {α β : Type} {x : Option α} {a : α} (hx : x = some a)
    (f : α → Machine β) (w : Desk) : (orTrap x >>= f).run.run w = (f a).run.run w := by
  subst hx
  rfl

theorem run_edit {m : Memory} {e : Storage} (he : d.memories.get? m.handle.id = some e)
    {change : List UInt8 → Option (List UInt8)} {bytes : List UInt8}
    (hchange : change e.bytes = some bytes) :
    (edit m change).run.run ⟨d, out⟩ = (.ok (), ⟨d.withBytes m.handle.id bytes, out⟩) := by
  have hlook : (storageOf m).run.run d = (.ok e, d) := by
    unfold storageOf
    rw [Action.run_get_bind, he]
    rfl
  unfold edit
  rw [Action.run_bind, run_ofCall, hlook]
  dsimp only
  rw [run_orTrap_bind hchange]
  rfl

theorem run_fill {change : List UInt8 → Option (List UInt8)} {out' : List UInt8}
    (hchange : change out = some out') : (fill change).run.run ⟨d, out⟩ = (.ok (), ⟨d, out'⟩) := by
  unfold fill
  rw [Action.run_get_bind, run_orTrap_bind hchange]
  rfl

variable (out) in
/-- The rows of a rectangle are written one after another. -/
theorem run_forRows_edit {m : Memory} {e : Storage} (he : d.memories.get? m.handle.id = some e)
    (data : List UInt8) (cursor : Nat) {bytes : List UInt8} {length : Nat} {starts : List Nat}
    (hstarts : Stretches bytes.length length starts) (hbytes : bytes.length < sizeBound)
    (hdata : cursor + starts.length * length ≤ data.length)
    (hword : cursor + starts.length * length < sizeBound) :
    (forRows (fun cursor row =>
        edit m fun bytes => do store? bytes row.1 row.2 (← load? data cursor row.2))
      (starts.map (·, length)) cursor).run.run ⟨d.withBytes m.handle.id bytes, out⟩ =
      (.ok (), ⟨d.withBytes m.handle.id
        (scatter bytes starts (chunksOf length starts.length (data.drop cursor))), out⟩) := by
  induction starts generalizing bytes cursor with
  | nil => rfl
  | cons start starts ih =>
    rw [List.length_cons, Nat.succ_mul] at hdata hword
    have hin := hstarts.inside start List.mem_cons_self
    have hchunk : (slice data cursor length).length = length := length_slice (by omega)
    have hlength : (overwrite bytes start (slice data cursor length)).length = bytes.length :=
      length_overwrite (hchunk.symm ▸ hin)
    have hstep : (do store? bytes start length (← load? data cursor length)) =
        some (overwrite bytes start (slice data cursor length)) := by
      rw [load?_eq (by omega) (by omega), Option.bind_eq_bind, Option.bind_some,
        store?_eq (by omega) hin hchunk]
    have hcursor : Word.add? cursor length = some (cursor + length) := Word.add?_eq (by omega)
    rw [List.map_cons, forRows, Action.run_bind,
      run_edit (State.get?_withBytes_self he bytes) hstep, State.withBytes_withBytes]
    dsimp only
    rw [run_orTrap_bind hcursor, ih _ (hlength.symm ▸ hstarts.tail) (by omega) (by omega)
      (by omega), List.length_cons, chunksOf, scatter, List.drop_drop]
    rfl

theorem overwrite_overwrite {bytes chunk : List UInt8} {start : Nat}
    (h : start + chunk.length ≤ bytes.length) (rest : List UInt8) :
    overwrite (overwrite bytes start chunk) (start + chunk.length) rest =
      overwrite bytes start (chunk ++ rest) := by
  have hfront : (bytes.take start ++ chunk).length = start + chunk.length := by
    rw [List.length_append, List.length_take_of_le (by omega)]
  have hrest : start + (chunk ++ rest).length = start + chunk.length + rest.length := by
    rw [List.length_append, Nat.add_assoc]
  unfold overwrite
  rw [hrest, ← hfront, List.take_left, ← List.drop_drop, List.drop_left, List.drop_drop,
    List.append_assoc (bytes.take start)]

/-- The rows of a rectangle are put behind each other into the output buffer. -/
theorem run_forRows_fill {bytes : List UInt8} {length cursor : Nat} {starts : List Nat}
    (hstarts : ∀ s ∈ starts, s + length ≤ bytes.length) (hbytes : bytes.length < sizeBound)
    (hout : cursor + starts.length * length ≤ out.length)
    (hword : cursor + starts.length * length < sizeBound) :
    (forRows (fun cursor row =>
        fill fun out => do store? out cursor row.2 (← load? bytes row.1 row.2))
      (starts.map (·, length)) cursor).run.run ⟨d, out⟩ =
      (.ok (), ⟨d, overwrite out cursor (gather bytes length starts).flatten⟩) := by
  induction starts generalizing out cursor with
  | nil =>
    have hsame : overwrite out cursor [] = out := by
      rw [overwrite, List.append_nil, List.length_nil, Nat.add_zero, List.take_append_drop]
    rw [show gather bytes length [] = [] from rfl, List.flatten_nil, hsame]
    rfl
  | cons start starts ih =>
    rw [List.length_cons, Nat.succ_mul] at hout hword
    have hin := hstarts start List.mem_cons_self
    have hchunk : (slice bytes start length).length = length := length_slice hin
    have hroom : cursor + (slice bytes start length).length ≤ out.length := by omega
    have hstep : (do store? out cursor length (← load? bytes start length)) =
        some (overwrite out cursor (slice bytes start length)) := by
      rw [load?_eq (by omega) hin, Option.bind_eq_bind, Option.bind_some,
        store?_eq (by omega) (by omega) hchunk]
    have hcursor : Word.add? cursor length = some (cursor + length) := Word.add?_eq (by omega)
    rw [List.map_cons, forRows, Action.run_bind, run_fill hstep]
    dsimp only
    have hroom' : cursor + length + starts.length * length ≤
        (overwrite out cursor (slice bytes start length)).length := by
      rw [length_overwrite hroom]
      omega
    rw [run_orTrap_bind hcursor, ih (fun s hs => hstarts s (List.mem_cons_of_mem _ hs)) hroom'
      (by omega), show gather bytes length (start :: starts) =
        slice bytes start length :: gather bytes length starts from rfl, List.flatten_cons,
      ← overwrite_overwrite hroom, hchunk]

variable (out) in
/-- The chunks of a copy are written one after another. -/
theorem run_putChunks {m : Memory} {e : Storage} (he : d.memories.get? m.handle.id = some e)
    {bytes : List UInt8} {length : Nat} {starts : List Nat} {chunks : List (List UInt8)}
    (hstarts : Stretches bytes.length length starts) (hbytes : bytes.length < sizeBound)
    (hchunks : ∀ c ∈ chunks, c.length = length) :
    (putChunks m (starts.map (·, length)) chunks).run.run ⟨d.withBytes m.handle.id bytes, out⟩ =
      (.ok (), ⟨d.withBytes m.handle.id (scatter bytes starts chunks), out⟩) := by
  induction starts generalizing bytes chunks with
  | nil => rfl
  | cons start starts ih =>
    cases chunks with
    | nil => rfl
    | cons chunk chunks =>
      have hin := hstarts.inside start List.mem_cons_self
      have hchunk : chunk.length = length := hchunks chunk List.mem_cons_self
      have hlength : (overwrite bytes start chunk).length = bytes.length :=
        length_overwrite (hchunk.symm ▸ hin)
      have hstep : store? bytes start length chunk = some (overwrite bytes start chunk) :=
        store?_eq (by omega) hin hchunk
      rw [List.map_cons, putChunks, Action.run_bind,
        run_edit (State.get?_withBytes_self he bytes) hstep, State.withBytes_withBytes]
      dsimp only
      exact ih (hlength.symm ▸ hstarts.tail) (by omega)
        fun c hc => hchunks c (List.mem_cons_of_mem _ hc)

end Loops

/-! ### Operations -/

section Operations

variable {α β : Type} {d : State} {out : List UInt8} {filled : α → List UInt8}

theorem performs_orTrap {x : Option β} {b : β} (hx : x = some b) {f : β → Machine Unit}
    {c : Call α} (h : Performs (f b) c filled d out) :
    Performs (orTrap x >>= f) c filled d out := by
  rwa [Performs, run_orTrap_bind hx]

/-- The machine sees its output buffer where the call has it as an argument. -/
theorem performs_get {f : Desk → Machine Unit} {c : Call α}
    (h : Performs (f ⟨d, out⟩) c filled d out) : Performs (get >>= f) c filled d out := by
  rwa [Performs, Action.run_get_bind]

theorem performs_edit {m : Memory} {e : Storage} (he : d.memories.get? m.handle.id = some e)
    {change : List UInt8 → Option (List UInt8)} {bytes : List UInt8}
    (hchange : change e.bytes = some bytes) :
    Performs (edit m change) (putBytes m bytes) (fun _ => out) d out :=
  run_edit he hchange

theorem performs_fill {change : List UInt8 → Option (List UInt8)} {out' : List UInt8}
    (hchange : change out = some out') : Performs (fill change) (pure out') id d out :=
  run_fill hchange

theorem performs_checkedRows {format : ImageFormat} {desc : ImageDesc} {origin : Origin}
    {region : Region} (hsize : desc.exactSize format < sizeBound)
    {f : List (Nat × Nat) → Machine Unit} {g : List Nat × Nat → Call α}
    (h : Simulator.fits desc origin region = true →
      Performs (f ((rowsOf format desc origin region).1.map (·, region.1 * format.pixelSize)))
        (g (rowsOf format desc origin region)) filled d out) :
    Performs (checkedRows format desc origin region >>= f)
      (Simulator.checkedRows format desc origin region >>= g) filled d out := by
  unfold checkedRows Simulator.checkedRows
  rw [fits_eq hsize]
  by_cases hfits : Simulator.fits desc origin region = true
  · rw [if_pos hfits, if_pos hfits]
    exact performs_orTrap (rows?_eq hfits hsize) (h hfits)
  · rw [if_neg hfits, if_neg hfits]
    rfl

/-- The rows of a rectangle in an image have no more bytes than the image. -/
theorem rows_le_exactSize {format : ImageFormat} {desc : ImageDesc} {origin : Origin}
    {region : Region} (hfits : Simulator.fits desc origin region = true) :
    region.2.1 * (region.1 * format.pixelSize) ≤ desc.exactSize format := by
  obtain ⟨hx, hy, -⟩ := fits_iff.1 hfits
  have harea : region.2.1 * region.1 ≤ desc.rows * desc.width :=
    Nat.mul_le_mul (by omega) (by omega)
  calc region.2.1 * (region.1 * format.pixelSize)
      = region.2.1 * region.1 * format.pixelSize := (Nat.mul_assoc _ _ _).symm
    _ ≤ desc.rows * desc.width * format.pixelSize := Nat.mul_le_mul_right _ harea
    _ = desc.exactSize format := by rw [Nat.mul_comm desc.rows, ImageDesc.exactSize]

/-- The sum of the lengths of the rows of a rectangle is a word. -/
theorem total?_rowsOf {format : ImageFormat} {desc : ImageDesc} {origin : Origin} {region : Region}
    (hfits : Simulator.fits desc origin region = true)
    (hsize : desc.exactSize format < sizeBound) :
    total? ((rowsOf format desc origin region).1.map (·, region.1 * format.pixelSize)) =
      some (region.2.1 * (region.1 * format.pixelSize)) := by
  have hle : region.2.1 * (region.1 * format.pixelSize) ≤ desc.exactSize format :=
    rows_le_exactSize hfits
  unfold total?
  rw [total?_map (by rw [length_rowsOf]; omega), length_rowsOf, Nat.zero_add]

theorem mapM_load? {bytes : List UInt8} {length : Nat} {starts : List Nat}
    (hbytes : bytes.length < sizeBound) (hstarts : ∀ s ∈ starts, s + length ≤ bytes.length) :
    (starts.map (·, length)).mapM (fun row => load? bytes row.1 row.2) =
      some (gather bytes length starts) := by
  rw [mapM_eq_some_map (g := fun row => slice bytes row.1 row.2), List.map_map]
  · rfl
  · rintro _ hrow
    obtain ⟨start, hstart, rfl⟩ := List.mem_map.1 hrow
    have hin := hstarts start hstart
    exact load?_eq (by dsimp only; omega) hin

end Operations

section Sound

variable {d : State} {out : List UInt8} (hd : d.Sound)
include hd

/-- What is kept of memory has a length that is a word. -/
theorem length_lt_sizeBound {id : Nat} {e : Storage} (he : d.memories.get? id = some e) :
    e.bytes.length < sizeBound :=
  Nat.lt_trans (hd.bounded _ _ he) (by decide)

theorem exactSize_lt_sizeBound {id : Nat} {bytes : List UInt8} {format : ImageFormat}
    {desc : ImageDesc} (he : d.memories.get? id = some ⟨bytes, some (format, desc)⟩) :
    desc.exactSize format < sizeBound :=
  hd.whole _ _ he _ _ rfl ▸ length_lt_sizeBound hd he

theorem withBytes_self {id : Nat} {e : Storage} (he : d.memories.get? id = some e) :
    d.withBytes id e.bytes = d := by
  unfold State.withBytes
  rw [Table.modify_eq_self hd.memories_distinct]
  intro e' he'
  obtain rfl := Option.some.inj (he.symm.trans he')
  rfl

theorem performs_writeBuffer (m : Memory) (offset : Nat) (data : List UInt8) :
    Performs (writeBuffer m offset data) (Simulator.writeBuffer m offset data) (fun _ => out) d
      out := by
  refine performs_bind (looks_storageOf m) fun e he => ?_
  have hbytes := length_lt_sizeBound hd he
  rw [checkRange_eq hbytes]
  refine performs_bind (looks_checkRange _ _ _) fun _ hrange => ?_
  have hin := hrange.2
  exact performs_edit he (store?_eq (by omega) hin rfl)

theorem performs_readBuffer (m : Memory) (offset : Nat) :
    Performs (readBuffer m offset) (Simulator.readBuffer m offset out.length) id d out := by
  refine performs_bind (looks_storageOf m) fun e he => ?_
  have hbytes := length_lt_sizeBound hd he
  refine performs_get ?_
  dsimp only
  rw [checkRange_eq hbytes]
  refine performs_bind (looks_checkRange _ _ _) fun _ hrange => ?_
  have hin := hrange.2
  have hchunk : (slice e.bytes offset out.length).length = out.length := length_slice hin
  refine performs_fill ?_
  rw [load?_eq (by omega) hin, Option.bind_eq_bind, Option.bind_some,
    store?_eq (by omega) (by omega) hchunk, overwrite_all hchunk]

theorem performs_copyBuffer (src dst : Memory) (srcOffset dstOffset length : Nat) :
    Performs (copyBuffer src dst srcOffset dstOffset length)
      (Simulator.copyBuffer src dst srcOffset dstOffset length) (fun _ => out) d out := by
  refine performs_bind (looks_storageOf src) fun e he => ?_
  have hsource := length_lt_sizeBound hd he
  rw [checkRange_eq hsource]
  refine performs_bind (looks_checkRange _ _ _) fun _ hsrc => ?_
  have hin := hsrc.2
  refine performs_orTrap (load?_eq (by omega) hin) ?_
  refine performs_bind (looks_storageOf dst) fun f hf => ?_
  have htarget := length_lt_sizeBound hd hf
  rw [checkRange_eq htarget]
  refine performs_bind (looks_checkRange _ _ _) fun _ hdst => ?_
  have hin' := hdst.2
  exact performs_edit hf (store?_eq (by omega) hin' (length_slice hin))

theorem performs_writeImage (m : Memory) (origin : Origin) (region : Region) (data : List UInt8) :
    Performs (writeImage m origin region data) (Simulator.writeImage m origin region data)
      (fun _ => out) d out := by
  refine performs_bind (looks_storageOf m) fun e he => ?_
  refine performs_bind (looks_imageOf e) fun form hform => ?_
  obtain ⟨bytes, image⟩ := e
  obtain rfl : image = some form := hform
  obtain ⟨format, desc⟩ := form
  have hsize := exactSize_lt_sizeBound hd he
  refine performs_checkedRows hsize fun hfits => ?_
  refine performs_orTrap (total?_rowsOf hfits hsize) ?_
  dsimp only
  rw [length_rowsOf, snd_rowsOf]
  refine performs_unless fun hdata => ?_
  have hle : region.2.1 * (region.1 * format.pixelSize) ≤ desc.exactSize format :=
    rows_le_exactSize hfits
  have hwhole : bytes.length = desc.exactSize format := hd.whole _ _ he _ _ rfl
  have hrun := run_forRows_edit out he data 0
    (hwhole.symm ▸ stretches_rowsOf hfits) (by omega)
    (by rw [length_rowsOf]; omega) (by rw [length_rowsOf]; omega)
  rw [withBytes_self hd he, length_rowsOf, List.drop_zero] at hrun
  exact hrun

theorem performs_readImage (m : Memory) (origin : Origin) (region : Region) :
    Performs (readImage m origin region) (Simulator.readImage m origin region out) id d out := by
  refine performs_bind (looks_storageOf m) fun e he => ?_
  refine performs_bind (looks_imageOf e) fun form hform => ?_
  obtain ⟨bytes, image⟩ := e
  obtain rfl : image = some form := hform
  obtain ⟨format, desc⟩ := form
  have hsize := exactSize_lt_sizeBound hd he
  refine performs_checkedRows hsize fun hfits => ?_
  refine performs_orTrap (total?_rowsOf hfits hsize) (performs_get ?_)
  dsimp only
  rw [length_rowsOf, snd_rowsOf]
  refine performs_unless fun hout => ?_
  have hle : region.2.1 * (region.1 * format.pixelSize) ≤ desc.exactSize format :=
    rows_le_exactSize hfits
  have hwhole : bytes.length = desc.exactSize format := hd.whole _ _ he _ _ rfl
  have hrows : Stretches bytes.length (region.1 * format.pixelSize)
    (rowsOf format desc origin region).1 := hwhole.symm ▸ stretches_rowsOf hfits
  exact run_forRows_fill hrows.inside (by omega) (by rw [length_rowsOf]; omega)
    (by rw [length_rowsOf]; omega)

theorem performs_copyImage (src dst : Memory) (srcOrigin dstOrigin : Origin) (region : Region) :
    Performs (copyImage src dst srcOrigin dstOrigin region)
      (Simulator.copyImage src dst srcOrigin dstOrigin region) (fun _ => out) d out := by
  refine performs_bind (looks_storageOf src) fun e he => ?_
  refine performs_bind (looks_imageOf e) fun form hform => ?_
  obtain ⟨source, image⟩ := e
  obtain rfl : image = some form := hform
  obtain ⟨format, srcDesc⟩ := form
  have hsrcSize := exactSize_lt_sizeBound hd he
  refine performs_checkedRows hsrcSize fun hfitsSrc => ?_
  have hsource : source.length = srcDesc.exactSize format := hd.whole _ _ he _ _ rfl
  have hsrcRows : Stretches source.length (region.1 * format.pixelSize)
    (rowsOf format srcDesc srcOrigin region).1 := hsource.symm ▸ stretches_rowsOf hfitsSrc
  refine performs_orTrap (mapM_load? (by omega) hsrcRows.inside) ?_
  refine performs_bind (looks_storageOf dst) fun f hf => ?_
  refine performs_bind (looks_imageOf f) fun form' hform' => ?_
  obtain ⟨target, image'⟩ := f
  obtain rfl : image' = some form' := hform'
  obtain ⟨format', dstDesc⟩ := form'
  refine performs_unless fun heq => ?_
  obtain rfl : format' = format := Decidable.of_not_not heq
  have hdstSize := exactSize_lt_sizeBound hd hf
  refine performs_checkedRows hdstSize fun hfitsDst => ?_
  have htarget : target.length = dstDesc.exactSize format' := hd.whole _ _ hf _ _ rfl
  have hrun := run_putChunks out hf (htarget.symm ▸ stretches_rowsOf hfitsDst) (by omega)
    (length_of_mem_gather hsrcRows.inside)
  rw [withBytes_self hd hf] at hrun
  exact hrun

end Sound

end Machine

/-! ## All operations on memory -/

/-- **No trap is ever sprung.** In every driver that requests lead to an image has just the bytes of
its extent, counted without a bound. And whatever memory, numbers, data and output buffer it is
given, the machine does what the calls say: each operation is either refused, as the call is, or it
gets by with sums and products that are words and with stretches that lie in their arrays. -/
theorem State.Reached.performs {d : State} (hd : d.Reached) (out : List UInt8) :
    (∀ id bytes format desc, d.memories.get? id = some ⟨bytes, some (format, desc)⟩ →
      bytes.length = desc.width * max desc.height 1 * format.pixelSize) ∧
    (∀ m offset data, Machine.Performs (Machine.writeBuffer m offset data)
      (writeBuffer m offset data) (fun _ => out) d out) ∧
    (∀ m offset, Machine.Performs (Machine.readBuffer m offset) (readBuffer m offset out.length) id
      d out) ∧
    (∀ src dst srcOffset dstOffset length,
      Machine.Performs (Machine.copyBuffer src dst srcOffset dstOffset length)
        (copyBuffer src dst srcOffset dstOffset length) (fun _ => out) d out) ∧
    (∀ m origin region data, Machine.Performs (Machine.writeImage m origin region data)
      (writeImage m origin region data) (fun _ => out) d out) ∧
    (∀ m origin region, Machine.Performs (Machine.readImage m origin region)
      (readImage m origin region out) id d out) ∧
    ∀ src dst srcOrigin dstOrigin region,
      Machine.Performs (Machine.copyImage src dst srcOrigin dstOrigin region)
        (copyImage src dst srcOrigin dstOrigin region) (fun _ => out) d out :=
  ⟨fun id _ _ _ he => hd.sound.whole id _ he _ _ rfl, Machine.performs_writeBuffer hd.sound,
    Machine.performs_readBuffer hd.sound, Machine.performs_copyBuffer hd.sound,
    Machine.performs_writeImage hd.sound, Machine.performs_readImage hd.sound,
    Machine.performs_copyImage hd.sound⟩

/-- An image of three columns and two rows that was asked for as a row. -/
def strip : Memory :=
  .ofImage ⟨1, .image, some 0⟩ ⟨.r, .uchar⟩ ⟨.one, 3, 2⟩

/-- The driver behind the making of the image. -/
def State.withStrip : State :=
  State.after {} (.createImage ⟨.r, .uchar⟩ ⟨.one, 3, 2⟩ (some [1, 2, 3, 4, 5, 6]))

/-- A rectangle that begins in the last column there can be is refused, though its end is no word;
one in the second row is read to the front of the output. -/
theorem State.performs_of_last_column :
    State.withStrip.Reached ∧
      (Machine.readImage strip (sizeBound - 1, 0, 0) (2, 1, 1)).run.run ⟨State.withStrip, [7]⟩ =
        (.error (.refused (.returned "clEnqueueImage" .invalidValue)), ⟨State.withStrip, [7]⟩) ∧
      (Machine.readImage strip (1, 1, 0) (2, 1, 1)).run.run ⟨State.withStrip, [7, 7, 7]⟩ =
        (.ok (), ⟨State.withStrip, [5, 6, 7]⟩) := by
  have hd : State.withStrip.Reached := (State.Reached.start 0).after _
  have hrefused : (readImage strip (sizeBound - 1, 0, 0) (2, 1, 1) [7]).run.run State.withStrip =
      (.error (.returned "clEnqueueImage" .invalidValue), State.withStrip) := rfl
  have hread : (readImage strip (1, 1, 0) (2, 1, 1) [7, 7, 7]).run.run State.withStrip =
      (.ok [5, 6, 7], State.withStrip) := rfl
  obtain ⟨-, -, -, -, -, hone, -⟩ := hd.performs [7]
  obtain ⟨-, -, -, -, -, hthree, -⟩ := hd.performs [7, 7, 7]
  refine ⟨hd, (hone strip _ _).trans ?_, (hthree strip _ _).trans ?_⟩
  · rw [hrefused]
  · rw [hread]
    rfl

end DriverBench.Simulator
