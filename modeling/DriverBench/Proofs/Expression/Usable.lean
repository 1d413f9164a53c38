import DriverBench.Proofs.Expression.Spares
import DriverBench.Proofs.Session.Operations
import DriverBench.Proofs.Simulator.Request
/-!
# What an expression says of its object is so

An object of the device comes in two parts: the session has its size and its form, its name or that
it is built, and the driver has the entry. Each constructor makes both from the same values, and
what it does to the entry afterwards keeps them in step. So the object that an expression denotes
describes what the driver keeps for it (`ensures_evaluate_described`): one lemma for each
constructor, and then down the tokens with the recursion of evaluation.
-/

namespace DriverBench

open Device Simulator

/-! ## Objects and entries -/

/-- What the session says of memory is so: its size, which is neither zero nor too large to be had,
and its form, from which the size of an image follows. -/
structure Device.Memory.Fits (m : Memory) (e : Storage) : Prop where
  length : e.bytes.length = m.size
  image : e.image = m.image
  positive : 0 < m.size
  bounded : m.size < allocationLimit
  whole : ∀ format desc, m.image = some (format, desc) → m.size = desc.byteSize format

/-- The size of an image is not capped. -/
theorem Device.Memory.Fits.size_eq_exactSize {m : Memory} {e : Storage} (h : m.Fits e)
    {format : ImageFormat} {desc : ImageDesc} (himage : m.image = some (format, desc)) :
    m.size = desc.exactSize format := by
  have hwhole := h.whole format desc himage
  rw [hwhole]
  exact byteSize_eq_exactSize (hwhole ▸ h.bounded)

/-- What the session says of an object of the device is so. A program is one that was built, and a
kernel has the name that it goes by. -/
def Device.Object.Fits : Object → Entry → Prop
  | .memory m, .memory e => m.Fits e
  | .program _, .program p => p.built = true
  | .kernel _ name, .kernel k => k.name = name
  | _, _ => False

namespace Simulator.State

/-- What was there is as it was, but for the arguments of kernels, or it is gone; what is new is
under a new id. -/
structure Follows (d d' : State) : Prop where
  serial : d'.serial = d.serial
  lastId_le : d.lastId ≤ d'.lastId
  kept : ∀ (h : Handle) (x' : Entry), h.id ≤ d.lastId → d'.kept? h = some x' →
    ∃ x, d.kept? h = some x ∧ x.Like x'

theorem Grown.follows {d d' : State} (h : d.Grown d') : d.Follows d' :=
  ⟨serial_eq_of_bare h.bare, h.lastId_le, h.kept⟩

theorem SameTables.follows {d d' : State} (h : d.SameTables d') : d.Follows d' := by
  refine ⟨h.serial, Nat.le_of_eq h.lastId.symm, fun k x _ hx => ⟨x, ?_, Entry.Like.refl x⟩⟩
  rwa [kept?, h.lookup_eq] at hx

instance : Frame Follows where
  refl _ := ⟨rfl, Nat.le_refl _, fun _ x _ hx => ⟨x, hx, Entry.Like.refl x⟩⟩
  trans {a b c} h h' := by
    refine ⟨h'.serial.trans h.serial, Nat.le_trans h.lastId_le h'.lastId_le, fun k z hk hz => ?_⟩
    obtain ⟨y, hy, hyz⟩ := h'.kept k z (Nat.le_trans hk h.lastId_le) hz
    obtain ⟨x, hx, hxy⟩ := h.kept k y hk hy
    exact ⟨x, hx, hxy.trans hyz⟩

/-- A new entry is kept under the next handle. -/
theorem kept?_nextHandle (d : State) (x : Entry) :
    (d.add x).kept? (d.nextHandle x.kind) = some x := by
  rw [kept?_add, if_pos ⟨rfl, rfl⟩]
  exact if_pos rfl

end Simulator.State

/-- The arguments of a kernel are no matter of what is said of it. -/
theorem Device.Object.Fits.like {o : Object} {x x' : Entry} (h : o.Fits x) (hx : x.Like x') :
    o.Fits x' := by
  cases o <;> cases x <;> cases x' <;> simp_all [Object.Fits, Entry.Like]

namespace Session

/-- The driver in use gave a handle out, and something holds of that driver. -/
def At (s : Session) (h : Handle) (A : State → Prop) : Prop :=
  h.issuer = s.active ∧ ∃ d, s.driver? = some d ∧ h.id ≤ d.lastId ∧ A d

/-- An object says what is so, as long as the driver in use keeps something for it. -/
def Describes (s : Session) (o : Object) : Prop :=
  ∀ h, o.handle? = some h → s.At h fun d => ∀ x, d.kept? h = some x → o.Fits x

/-- The driver in use bears its number, and whatever is bound says what is so. -/
structure Usable (s : Session) : Prop where
  numbered : ∀ d, s.driver? = some d → s.active = some d.serial
  described : ∀ e ∈ s.env.values, s.Describes e.object

/-- The driver in use is the same one, and what it keeps follows from what it kept. -/
structure SameDriver (s s' : Session) : Prop where
  active : s'.active = s.active
  driver : Option.Rel State.Follows s.driver? s'.driver?

theorem sameDriver_of_pairs {R : State → State → Prop} {s s' : Session}
    (hactive : s'.active = s.active) (hfleet : Fleet.Pairs R s.fleet s'.fleet)
    (hR : ∀ d d', R d d' → d.Follows d') : s.SameDriver s' := by
  refine ⟨hactive, ?_⟩
  unfold driver?
  rw [hactive]
  cases s.active with
  | none => exact .none
  | some n => exact (hfleet.mono hR) n

theorem Spares.sameDriver {s s' : Session} (h : s.Spares s') : s.SameDriver s' :=
  sameDriver_of_pairs h.active h.fleet fun _ _ hg => hg.follows

theorem SameDriver.describes {s s' : Session} (h : s.SameDriver s') {o : Object}
    (ho : s.Describes o) : s'.Describes o := by
  intro k hk
  obtain ⟨hissuer, d, hd, hle, hfits⟩ := ho k hk
  have hdriver := h.driver
  rw [hd] at hdriver
  refine ⟨hissuer.trans h.active.symm, ?_⟩
  generalize s'.driver? = o' at hdriver ⊢
  cases hdriver with
  | @some _ d' hfollows =>
    refine ⟨d', rfl, Nat.le_trans hle hfollows.lastId_le, fun x' hx' => ?_⟩
    obtain ⟨x, hx, hlike⟩ := hfollows.kept k x' hle hx'
    exact (hfits x hx).like hlike

theorem SameDriver.usable {s s' : Session} (h : s.SameDriver s') (hs : s.Usable)
    (henv : ∀ e ∈ s'.env.values, e ∈ s.env.values) : s'.Usable := by
  refine ⟨fun d' hd' => ?_, fun e he => h.describes (hs.described e (henv e he))⟩
  have hdriver := h.driver
  rw [hd'] at hdriver
  generalize hd : s.driver? = o at hdriver
  cases hdriver with
  | @some d _ hfollows => rw [h.active, hs.numbered d hd, hfollows.serial]

theorem Spares.usable {s s' : Session} (h : s.Spares s') (hs : s.Usable) : s'.Usable :=
  h.sameDriver.usable hs fun _ he => h.env ▸ he

/-- Bytes of the host say nothing of the device. -/
theorem describes_of_host {s : Session} {o : Object} (h : o.handle? = none) : s.Describes o :=
  fun k hk => absurd (h.symm.trans hk) (by simp)

end Session

/-! ## Calls that create something -/

namespace Simulator

/-- A call adds an entry and gives what an object is made of that has its handle and fits it, or it
fails and changes nothing. -/
def CreatesAs {α : Type} (c : Call α) (object : α → Object) : Prop :=
  Tries c fun d a d' => ∃ x, d' = d.add x ∧ (object a).handle? = some (d.nextHandle x.kind) ∧
    (object a).Fits x

theorem createsAs_createBuffer (size : Nat) : CreatesAs (createBuffer size) Object.memory := by
  intro d
  unfold createBuffer
  refine ensures_unless fun hne => (looks_zeroed _ _).bind fun bytes hbytes => ?_
  obtain ⟨hlt, rfl⟩ := hbytes
  rintro _ rfl
  exact ⟨.memory ⟨List.replicate size 0, none⟩, rfl, rfl,
    ⟨List.length_replicate, rfl, Nat.pos_of_ne_zero hne, hlt, nofun⟩⟩

theorem createsAs_createImage (format : ImageFormat) (desc : ImageDesc)
    (data : Option (List UInt8)) : CreatesAs (createImage format desc data) Object.memory := by
  intro d
  unfold createImage
  refine ensures_unless fun hne => ensures_unless fun hdata => ?_
  refine (looks_zeroed _ _).bind fun bytes hbytes => ?_
  obtain ⟨hlt, rfl⟩ := hbytes
  rintro _ rfl
  have hpositive : 0 < desc.byteSize format := Nat.pos_of_ne_zero fun h => hne (.inr h)
  refine ⟨.memory ⟨_, some (format, desc)⟩, rfl, rfl, ⟨?_, rfl, hpositive, hlt, ?_⟩⟩
  · cases data with
    | none => exact List.length_replicate
    | some bytes => exact List.length_take_of_le (by simpa using hdata)
  · rintro _ _ ⟨⟩
    rfl

theorem createsAs_createKernel (program : Handle) (name : String) :
    CreatesAs (createKernel program name) fun k => .kernel k.1 k.2 := by
  intro d
  unfold createKernel
  refine looks_get.bind fun s hs => (looks_orFail _ _ _).bind fun entry hentry => ?_
  obtain rfl : s = d := hs
  refine ensures_unless fun _ => (looks_orFail _ _ _).bind fun signature _ => ?_
  rintro _ rfl
  exact ⟨.kernel _, rfl, rfl, rfl⟩

theorem createsAs_cloneKernel (kernel : Handle) :
    CreatesAs (cloneKernel kernel) fun k => .kernel k.1 k.2 := by
  intro d
  unfold cloneKernel
  refine looks_get.bind fun s hs => (looks_orFail _ _ _).bind fun copy _ => ?_
  obtain rfl : s = d := hs
  rintro _ rfl
  exact ⟨.kernel copy, rfl, rfl, rfl⟩

end Simulator

/-! ## Calls of the driver in use -/

namespace Action

open Session (At Describes Usable)

variable {α : Type}

/-- What a call that goes through does to the driver that gave a handle out. -/
theorem ensures_drive_at {c : Call α} {h : Handle} {A : State → Prop} {B : α → State → Prop}
    (hc : ∀ d, A d → h.id ≤ d.lastId → ∀ a d', c.Gives d a d' → h.id ≤ d'.lastId ∧ B a d') :
    Ensures (fun s => s.At h A) (drive c) (fun a s => s.At h (B a)) (fun _ => True) := by
  refine Ensures.drive (fun _ _ _ => trivial) fun s n d hs hn hd => ?_
  obtain ⟨hissuer, d₁, hd₁, hle, hA⟩ := hs
  have hdriver : s.driver? = some d := Session.driver?_of_active hn hd
  obtain rfl : d₁ = d := Option.some.inj (hd₁.symm.trans hdriver)
  rcases hr : c.run.run d₁ with ⟨e | a, d'⟩
  · trivial
  · exact ⟨hissuer, d', Session.driver?_withDriver hn hd d', hc d₁ hA hle a d' hr⟩

/-- What is said of an object stays so where a call that goes through keeps it so. -/
theorem ensures_drive_describes {c : Call α} {Q : State → α → State → Prop} (hc : Tries c Q)
    {o : Object} (hQ : ∀ h d a d', o.handle? = some h → Q d a d' →
      (∀ x, d.kept? h = some x → o.Fits x) →
        d.lastId ≤ d'.lastId ∧ ∀ x', d'.kept? h = some x' → o.Fits x') :
    Ensures (fun s => s.Describes o) (drive c) (fun _ s => s.Describes o) (fun _ => True) := by
  intro s hs
  rcases hr : (drive c).run.run s with ⟨f | a, s'⟩
  · trivial
  · intro h hh
    have hat := ensures_drive_at (c := c) (h := h)
      (B := fun _ d' => ∀ x', d'.kept? h = some x' → o.Fits x') (fun d hA hle b d' hgives => by
        obtain ⟨hlastId, hfits⟩ := hQ h d b d' hh (hc.of_gives hgives) hA
        exact ⟨Nat.le_trans hle hlastId, hfits⟩) s (hs h hh)
    rw [hr] at hat
    exact hat

/-- **What is created** is described by the object that is made of the same values. -/
theorem ensures_drive_creates {c : Call α} {object : α → Object} (hc : CreatesAs c object) :
    Ensures Usable (drive c) (fun a s => s.Describes (object a)) (fun _ => True) := by
  refine Ensures.drive (fun _ _ _ => trivial) fun s n d hs hn hd => ?_
  rcases hr : c.run.run d with ⟨e | a, d'⟩
  · trivial
  · obtain ⟨x, rfl, hhandle, hfits⟩ := hc.of_gives hr
    intro h hh
    obtain rfl := Option.some.inj (hhandle.symm.trans hh)
    have hdriver : s.driver? = some d := Session.driver?_of_active hn hd
    refine ⟨(hs.numbered d hdriver).symm, d.add x, Session.driver?_withDriver hn hd _,
      Nat.le_refl _, fun x' hx' => ?_⟩
    rw [State.kept?_nextHandle] at hx'
    exact Option.some.inj hx' ▸ hfits

/-- A program that is created is given out by the driver in use. -/
theorem ensures_drive_program {c : Call Handle} {Q : State → Handle → State → Prop}
    (hc : Tries c Q)
    (hQ : ∀ d h d', Q d h d' → ∃ p, d' = d.add (.program p) ∧ h = d.nextHandle .program) :
    Ensures Usable (drive c) (fun h s => h.kind = .program ∧ s.At h fun _ => True)
      (fun _ => True) := by
  refine Ensures.drive (fun _ _ _ => trivial) fun s n d hs hn hd => ?_
  rcases hr : c.run.run d with ⟨e | h, d'⟩
  · trivial
  · obtain ⟨p, rfl, rfl⟩ := hQ _ _ _ (hc.of_gives hr)
    have hdriver : s.driver? = some d := Session.driver?_of_active hn hd
    exact ⟨rfl, (hs.numbered d hdriver).symm, _, Session.driver?_withDriver hn hd _, Nat.le_refl _,
      trivial⟩

end Action

/-! ## Memory that is written into -/

namespace Simulator

/-- The bytes of memory are no matter of what is said of it, but their number is. -/
theorem fits_of_bytes {o : Object} {e e' : Storage} (h : o.Fits (.memory e))
    (himage : e'.image = e.image) (hlength : e'.bytes.length = e.bytes.length) :
    o.Fits (.memory e') := by
  cases o with
  | memory m => exact ⟨hlength.trans h.length, himage.trans h.image, h.positive, h.bounded, h.whole⟩
  | data | image | program | kernel => exact h

/-- What is said of an object stays so when bytes of memory are replaced by as many. -/
theorem State.fits_withBytes {d : State} {o : Object} {h : Handle} {id : Nat} {e : Storage}
    {bytes : List UInt8} (he : d.memories.get? id = some e)
    (hlength : o.Fits (.memory e) → bytes.length = e.bytes.length)
    (hfits : ∀ x, d.kept? h = some x → o.Fits x) {x' : Entry}
    (hx' : (d.withBytes id bytes).kept? h = some x') : o.Fits x' := by
  obtain ⟨hlookup, hkind⟩ := Option.filter_eq_some_iff.1 hx'
  rcases State.lookup_memories hlookup with hold | ⟨e', he', rfl⟩
  · exact hfits x' (Option.filter_eq_some_iff.2 ⟨hold, hkind⟩)
  obtain ⟨e₀, he₀, rfl⟩ := Table.exists_of_get?_modify he'
  have himage : (if h.id = id then { e₀ with bytes } else e₀).image = e₀.image := by
    split <;> rfl
  -- The entry before is under the same handle, since its form is the same.
  have hkept : d.kept? h = some (.memory e₀) := by
    have hlook : d.lookup .buffer h.id = some (.memory e₀) := by rw [State.lookup, he₀]; rfl
    have hkind₀ : (Entry.memory e₀).kind = h.kind := by
      rw [Entry.kind, ← himage]
      exact of_decide_eq_true hkind
    have hkept₀ := State.kept?_of_lookup hlook h.issuer
    rwa [hkind₀] at hkept₀
  have hfit : o.Fits (.memory e₀) := hfits _ hkept
  refine fits_of_bytes hfit himage ?_
  split
  · next hid =>
    obtain rfl : e₀ = e := Option.some.inj (he₀.symm.trans (hid ▸ he))
    exact hlength hfit
  · rfl

end Simulator

namespace Action

open Session (Describes)

/-- What a call writes into memory is as much as there was. -/
theorem ensures_writeBuffer_describes (m : Memory) (offset : Nat) (data : List UInt8) (o : Object) :
    Ensures (fun s => s.Describes o) (drive (writeBuffer m offset data)) (fun _ s => s.Describes o)
      (fun _ => True) := by
  refine ensures_drive_describes (tries_writeBuffer m offset data) fun h d _ d' _ hd hfits => ?_
  obtain ⟨bytes, he, hle, rfl⟩ := hd
  exact ⟨Nat.le_refl _, fun _ hx =>
    State.fits_withBytes he (fun _ => length_overwrite hle) hfits hx⟩

theorem ensures_copyBuffer_describes (src dst : Memory) (srcOffset dstOffset length : Nat)
    (o : Object) :
    Ensures (fun s => s.Describes o) (drive (copyBuffer src dst srcOffset dstOffset length))
      (fun _ s => s.Describes o) (fun _ => True) := by
  refine ensures_drive_describes (tries_copyBuffer src dst srcOffset dstOffset length)
    fun h d _ d' _ hd hfits => ?_
  obtain ⟨source, target, -, he, hsrc, hdst, rfl⟩ := hd
  exact ⟨Nat.le_refl _, fun _ hx => State.fits_withBytes he
    (fun _ => length_overwrite (by rwa [length_slice hsrc])) hfits hx⟩

/-- The rows of an image lie in the bytes that it is said to have. -/
theorem ensures_copyImage_describes (src dst : Memory) (srcOrigin dstOrigin : Origin)
    (region : Region) :
    Ensures (fun s => s.Describes (.memory dst))
      (drive (copyImage src dst srcOrigin dstOrigin region))
      (fun _ s => s.Describes (.memory dst)) (fun _ => True) := by
  refine ensures_drive_describes (tries_copyImage src dst srcOrigin dstOrigin region)
    fun h d _ d' _ hd hfits => ?_
  obtain ⟨source, target, format, srcDesc, dstDesc, -, he, -, hdst, rfl⟩ := hd
  refine ⟨Nat.le_refl _, fun _ hx => State.fits_withBytes he (fun hfit => ?_) hfits hx⟩
  have hwhole : target.length = dstDesc.exactSize format := by
    rw [hfit.length, hfit.size_eq_exactSize hfit.image.symm]
  exact length_scatter (hwhole.symm ▸ stretches_rowsOf hdst) length_le_of_mem_gather

end Action

namespace Reading

open Session (Builds Describes Usable)

variable {α β : Type}

/-- A reading that starts with what is usable gives something of which what is said is so. -/
def Forms (r : Reading α) (object : α → Object) : Prop :=
  Ensures Usable r (fun a s => s.Describes (object a)) (fun _ => True)

section Forms

variable {object : α → Object} {object' : β → Object}

theorem Within.usable {r : Reading α} (h : Within Builds r) :
    Ensures Usable r (fun _ => Usable) (fun _ => True) :=
  (h.ensures fun _ _ hb hs => hb.toSpares.usable hs).mono (fun _ h => h) (fun _ _ h => h)
    fun _ _ => trivial

theorem Within.describes {r : Reading α} (h : Within Builds r) (o : Object) :
    Ensures (fun s => s.Describes o) r (fun _ s => s.Describes o) (fun _ => True) :=
  (h.ensures fun _ _ hb hs => hb.toSpares.sameDriver.describes hs).mono (fun _ h => h)
    (fun _ _ h => h) fun _ _ => trivial

theorem forms_bind {r : Reading β} {f : β → Reading α} (h : Within Builds r)
    (hf : ∀ b, Forms (f b) object) : Forms (r >>= f) object :=
  h.usable.bind hf

theorem forms_ite {p : Prop} [Decidable p] {r r' : Reading α} (h : Forms r object)
    (h' : Forms r' object) : Forms (if p then r else r') object := by
  split <;> assumption

theorem forms_raise (f : Fault) (span : Span) : Forms (raise f span) object :=
  Ensures.raise fun _ _ => trivial

/-- What was made is given another form. -/
theorem Forms.map {r : Reading α} (h : Forms r object) {f : α → β}
    (hf : ∀ a, object' (f a) = object a) : Forms (r >>= fun a => pure (f a)) object' :=
  h.bind fun a => Ensures.pure fun s hs => by rwa [hf]

/-- What was made may be written into, as long as that keeps what is said of it. -/
theorem forms_undoing {r : Reading α} {handle : α → Handle} {body : α → Reading β}
    (h : Forms r object) (hb : ∀ a, Ensures (fun s => s.Describes (object a)) (body a)
      (fun b s => s.Describes (object' b)) (fun _ => True)) :
    Forms (r >>= fun a => undoing (handle a) (body a)) object' :=
  h.bind fun a => Ensures.undoing (hb a)

/-- A reading whose values have no handle. -/
theorem forms_of_host {r : Reading α}
    (hr : Ensures (fun _ => True) r (fun a _ => (object a).handle? = none) (fun _ => True)) :
    Forms r object :=
  hr.mono (fun _ _ => trivial) (fun _ _ h => Session.describes_of_host h) fun _ h => h

end Forms

theorem forms_drive {c : Simulator.Call α} {object : α → Object} (hc : CreatesAs c object) :
    Forms (liftM (Action.drive c)) object :=
  Ensures.liftM (Action.ensures_drive_creates hc)

theorem forms_drive_atSpan {c : Simulator.Call α} {object : α → Object} (hc : CreatesAs c object)
    (span : Span) : Forms (liftM ((Action.drive c).atSpan span)) object :=
  Ensures.liftM ((Action.ensures_drive_creates hc).atSpan span)

/-! ## Objects of the host -/

theorem forms_arrayObject (type : Number.ElementType) : Forms (arrayObject type) id :=
  forms_of_host (Ensures.any.bind fun _ => Ensures.pure fun _ _ => rfl)

theorem forms_fileObject : Forms fileObject id := by
  refine forms_of_host ?_
  unfold fileObject
  refine Ensures.any.bind fun name => Ensures.any.bind fun part => ?_
  refine Ensures.any.bind fun _ => Ensures.any.bind fun bytes => Ensures.any.bind fun _ => ?_
  refine Ensures.ite (fun _ => Ensures.pure fun _ _ => rfl) fun _ => ?_
  unfold wholeFile
  refine Ensures.any.bind fun s => ?_
  split
  · exact Ensures.pure fun _ _ => rfl
  · exact Ensures.pure fun _ _ => rfl
  · exact Ensures.raise fun _ _ => trivial

/-! ## Buffers and images -/

theorem forms_sizedBuffer : Forms sizedBuffer id := by
  unfold sizedBuffer
  refine forms_bind within_consume fun t => forms_bind (within_lift _) fun size => ?_
  refine forms_bind within_closeArguments fun _ => ?_
  exact (forms_drive_atSpan (createsAs_createBuffer size) _).map fun m => rfl

theorem forms_bufferOf (bytes : List UInt8) : Forms (bufferOf bytes) Object.memory := by
  unfold bufferOf
  refine forms_undoing (forms_drive (createsAs_createBuffer _)) fun m => ?_
  exact (Ensures.liftM (Action.ensures_writeBuffer_describes m 0 bytes (.memory m))).bind fun _ =>
    Ensures.pure fun _ h => h

theorem forms_filledBuffer (operand : Token) (source : Entity) :
    Forms (filledBuffer operand source) id := by
  unfold filledBuffer
  split
  · exact forms_raise _ _
  · next d hd =>
    refine forms_bind (within_dataPart _) fun part => forms_bind within_closeArguments fun _ => ?_
    refine (forms_bufferOf _).bind fun m => ?_
    exact ((within_keepInFlight (handle?_of_data? hd)).describes (.memory m)).bind fun _ =>
      Ensures.pure fun _ h => h

theorem forms_filledImage (operand : Token) (source : Entity) :
    Forms (filledImage operand source) id := by
  unfold filledImage
  refine forms_bind (within_skip _) fun more => ?_
  extract_lets rest
  have hrest : ∀ form, Forms (rest form) id := fun form => by
    refine forms_bind within_closeArguments fun _ => ?_
    exact (forms_drive (createsAs_createImage _ _ _)).map fun m => rfl
  exact forms_ite (forms_bind (within_imageFromData _ _) hrest)
    (forms_bind (within_imageFromImage _ _) hrest)

theorem forms_copyMemory (m : Memory) : Forms (copyMemory m) Object.memory := by
  unfold copyMemory
  split
  · refine forms_undoing (forms_drive (createsAs_createImage _ _ _)) fun copy => ?_
    exact (Ensures.liftM (Action.ensures_copyImage_describes m copy _ _ _)).bind fun _ =>
      Ensures.pure fun _ h => h
  · refine forms_undoing (forms_drive (createsAs_createBuffer _)) fun copy => ?_
    exact (Ensures.liftM (Action.ensures_copyBuffer_describes m copy _ _ _ (.memory copy))).bind
      fun _ => Ensures.pure fun _ h => h

theorem forms_clonedObject (operand : Token) (source : Entity) :
    Forms (clonedObject operand source) id := by
  unfold clonedObject
  refine forms_bind within_closeArguments fun _ => ?_
  split
  · exact (forms_copyMemory _).map fun m => rfl
  · exact (forms_drive (createsAs_cloneKernel _)).map fun k => rfl
  · exact forms_raise _ _

/-! ## Programs and kernels -/

/-- What follows a failed build gives nothing. -/
theorem ensures_buildFailure {Q : Unit → Session → Prop} (f : Failure) :
    Action.Ensures (fun _ => True) (do
      match f.fault with
      | .driver (.buildFailure log) => printLog log
      | _ => pure ()
      throw f : Action Unit) Q (fun _ => True) := by
  extract_lets rest
  have hrest : ∀ u, Action.Ensures (fun _ => True) (rest u) Q (fun _ => True) :=
    fun _ => Action.Ensures.throw fun _ _ => trivial
  split
  · refine Action.Ensures.bind (Q := fun _ _ => True) (E := fun _ => True) ?_ hrest
    exact (Action.within_printError (R := Builds) _).ensures fun _ _ _ h => h
  · exact hrest ()

/-- A build that goes through leaves nothing under the handle but a program that is built. -/
theorem fits_of_buildProgram {d d' : State} {program : Handle} {options : String}
    (hkind : program.kind = .program)
    (h : (buildProgram program options).Gives d () d') :
    d'.lastId = d.lastId ∧
      ∀ x, d'.kept? program = some x → (Object.program program).Fits x := by
  unfold Call.Gives at h
  cases hp : d.programs.get? program.id with
  | none =>
    rw [run_buildProgram_of_none hp] at h
    cases (Prod.mk.inj h).1
  | some p =>
    rw [run_buildProgram hp] at h
    split at h
    · obtain ⟨-, rfl⟩ := Prod.mk.inj h
      refine ⟨rfl, fun x hx => ?_⟩
      obtain ⟨hlookup, -⟩ := Option.filter_eq_some_iff.1 hx
      rw [hkind] at hlookup
      obtain ⟨q, hq, rfl⟩ := Option.map_eq_some_iff.1 hlookup
      obtain ⟨q₀, -, rfl⟩ := Table.exists_of_get?_modify hq
      rw [if_pos rfl]
      rfl
    · cases (Prod.mk.inj h).1

/-- **A program that goes through is built.** -/
theorem ensures_builtProgram_describes (program : Handle) (options : String) :
    Ensures (fun s => program.kind = .program ∧ s.At program fun _ => True)
      (builtProgram program options) (fun o s => s.Describes o) (fun _ => True) := by
  have hbuild : Action.Ensures (fun s => program.kind = .program ∧ s.At program fun _ => True)
      (build program options) (fun _ s => s.Describes (.program program)) (fun _ => True) := by
    refine Action.Ensures.tryCatch ?_ ensures_buildFailure
    rintro s ⟨hkind, hat⟩
    have hdrive := Action.ensures_drive_at (c := buildProgram program options)
      (fun d _ hle _ _ hgives => by
        obtain ⟨hlastId, hfits⟩ := fits_of_buildProgram hkind hgives
        exact ⟨hlastId.symm ▸ hle, hfits⟩) s hat
    rcases hr : (Action.drive (buildProgram program options)).run.run s with ⟨f | u, s'⟩
    · trivial
    · rw [hr] at hdrive
      intro h hh
      obtain rfl := Option.some.inj hh
      exact hdrive
  refine Ensures.undoing ((Ensures.liftM hbuild).bind fun _ => Ensures.pure fun s hs => hs)

theorem forms_builtProgram {r : Reading Handle}
    (h : Ensures Usable r (fun program s => program.kind = .program ∧ s.At program fun _ => True)
      (fun _ => True)) (options : String) :
    Forms (r >>= fun program => builtProgram program options) id :=
  h.bind fun program => ensures_builtProgram_describes program options

theorem forms_programOfSource (source : String) : Forms (programOfSource source) id := by
  unfold programOfSource
  refine forms_bind within_buildOptions fun options => forms_bind within_closeArguments fun _ => ?_
  exact forms_builtProgram
    (Ensures.liftM (Action.ensures_drive_program (tries_createProgram source)
      fun _ _ _ h => ⟨_, h.2⟩)) options

theorem forms_quotedProgram : Forms quotedProgram id := by
  unfold quotedProgram
  refine forms_bind within_consume fun t => forms_bind (within_lift _) fun source => ?_
  exact forms_programOfSource source

theorem forms_dataProgram (operand : Token) (source : Entity) :
    Forms (dataProgram operand source) id := by
  unfold dataProgram
  split
  · exact forms_raise _ _
  · exact forms_programOfSource _

theorem forms_binaryProgram (operand : Token) (source : Entity) :
    Forms (binaryProgram operand source) id := by
  unfold binaryProgram
  split
  · exact forms_raise _ _
  · refine forms_bind within_buildOptions fun options => ?_
    refine forms_bind within_closeArguments fun _ => ?_
    exact forms_builtProgram (Ensures.liftM
      ((Action.ensures_drive_program (tries_createProgramBinary _)
        fun _ _ _ ⟨_, _, _, h⟩ => ⟨_, h⟩).atSpan _)) options

theorem forms_programKernel (operand : Token) (source : Entity) :
    Forms (programKernel operand source) id := by
  unfold programKernel
  split
  · exact forms_raise _ _
  · refine forms_bind within_comma fun _ => forms_bind within_kernelName fun name => ?_
    refine forms_bind within_closeArguments fun _ => ?_
    exact (forms_drive_atSpan (createsAs_createKernel _ _) _).map fun k => rfl

/-! ## Expressions -/

theorem forms_plain {d : Derivation} {kind : TokenKind} {object : Reading Object}
    (h : plain? d kind = some object) : Forms object id := by
  unfold plain? at h
  split at h
  · exact Option.some.inj h ▸ forms_sizedBuffer
  · exact Option.some.inj h ▸ forms_quotedProgram
  · cases h

theorem forms_derive (d : Derivation) (operand : Token) (source : Entity) :
    Forms (derive d operand source) id := by
  cases d
  · exact forms_clonedObject operand source
  · exact forms_filledBuffer operand source
  · exact forms_filledImage operand source
  · exact forms_dataProgram operand source
  · exact forms_binaryProgram operand source
  · exact forms_programKernel operand source

theorem forms_derivedObject (d : Derivation) {operand : Reading Entity}
    (h : Within Builds operand) : Forms (derivedObject d operand) id := by
  unfold derivedObject
  refine forms_bind within_current fun first => ?_
  split
  · next object ho => exact forms_plain ho
  · refine forms_bind h fun source => Ensures.holding ?_
    -- Letting the source go takes nothing that is said of the object back.
    refine (forms_derive d first source).mono (fun _ h => h) (fun o s hs => ?_) fun _ _ => trivial
    exact (Session.builds_letGo s [source]).toSpares.sameDriver.describes hs

theorem forms_construct (c : Constructor) (word : Token) {operand : Reading Entity}
    (h : Within Builds operand) : Forms (construct c word operand) id := by
  unfold construct
  split
  · exact forms_bind (within_openArguments _) fun _ => forms_fileObject
  · exact forms_bind (within_openArguments _) fun _ => forms_arrayObject _
  · next d =>
    have hrest := forms_bind (within_openArguments (Constructor.derived d).keyword) fun _ =>
      forms_derivedObject d h
    exact forms_ite (forms_bind (within_requireDriver _ _) fun _ => hrest) hrest

theorem forms_entered {r : Reading Object} (h : Forms r id) :
    Forms (r >>= fun o => liftM (Action.enter o)) Entity.object :=
  h.bind fun _ => Ensures.liftM fun _ hs => hs

theorem forms_closed {r : Reading Entity} (h : Forms r Entity.object) (opening : Token) :
    Forms (r >>= fun e => closed opening e) Entity.object := by
  refine h.bind fun e => ?_
  unfold closed
  refine ((within_skip _).describes e.object).bind fun close =>
    Ensures.ite (fun _ => Ensures.pure fun _ h => h) fun _ => ?_
  exact Ensures.any.bind fun _ => Ensures.raise fun _ _ => trivial

/-- **An expression** denotes an object of which what is said is so. -/
theorem forms_evaluateFrom : (ts : List Token) → Forms (evaluateFrom ts) Entity.object
  | [] => forms_bind within_here fun _ => forms_raise _ _
  | t :: rest => by
    have hrest := forms_evaluateFrom rest
    unfold evaluateFrom
    split
    · exact Ensures.throw fun _ _ => trivial
    · exact forms_bind within_advance fun _ => forms_closed hrest t
    · refine forms_bind within_advance fun _ => ?_
      refine Ensures.session_bind fun s hs => ?_
      split
      · next e he =>
        -- What is bound says what is so from the start.
        refine Ensures.pure ?_
        rintro _ rfl
        exact hs.described e (Environment.mem_values_of_lookup he)
      · refine Ensures.mono (P := Usable) ?_ (fun _ h => h ▸ hs) (fun _ _ h => h) fun _ h => h
        split
        · exact forms_raise _ _
        · exact forms_entered (forms_construct _ _ within_missing)
        · next c x arguments _ =>
          exact forms_entered (forms_construct c t (within_evaluateFrom arguments))
    · exact forms_raise _ _

theorem forms_evaluate : Forms evaluate Entity.object :=
  forms_bind within_cursor fun c => forms_evaluateFrom c.pending

end Reading

end DriverBench
