import DriverBench.Proofs.Simulator.Entry
import DriverBench.Simulator.Program
import DriverBench.Simulator.Platform
/-!
# What the calls of a driver do to what it keeps

Each call is described once: what it looks at (`Looks`), and what it changes if it goes through,
where failing changes nothing (`Tries`). Building a program is the one call that changes something
when it fails.

From the descriptions follow the coarser statements that sessions go by. A call that creates
something adds one entry (`Creates`). A call that writes into memory or builds a program alters the
entries under one id and keeps them alive (`AltersAt`). Setting an argument leaves everything as it
is but for the argument. The other calls keep their hands off all entries.
-/

namespace DriverBench.Simulator

open Device

namespace State

/-- What was there is as it was, but for the arguments of kernels, or it is gone; what is new is
under a new id. The settings and the record of what was done are the same. -/
structure Grown (d d' : State) : Prop where
  bare : d'.bare = d.bare
  lastId_le : d.lastId ≤ d'.lastId
  kept : ∀ (h : Handle) (x' : Entry), h.id ≤ d.lastId → d'.kept? h = some x' →
    ∃ x, d.kept? h = some x ∧ x.Like x'

/-- What was there is just as it was, or it is gone; what is new is under a new id. The settings and
the record of what was done are the same. -/
structure Intact (d d' : State) : Prop where
  bare : d'.bare = d.bare
  lastId_le : d.lastId ≤ d'.lastId
  kept : ∀ (h : Handle) (x : Entry), h.id ≤ d.lastId → d'.kept? h = some x → d.kept? h = some x

/-- Entries are gone, and nothing else is another. -/
structure Fades (d d' : State) : Prop where
  bare : d'.bare = d.bare
  lastId : d'.lastId = d.lastId
  entry : ∀ kind id x, d'.lookup kind id = some x → d.lookup kind id = some x

/-- The tables are the same, and the ids that were given out. -/
structure SameTables (d d' : State) : Prop where
  serial : d'.serial = d.serial
  lastId : d'.lastId = d.lastId
  memories : d'.memories = d.memories
  programs : d'.programs = d.programs
  kernels : d'.kernels = d.kernels

/-- The same handles have an entry. -/
structure SameLive (d d' : State) : Prop where
  serial : d'.serial = d.serial
  lastId_le : d.lastId ≤ d'.lastId
  live : ∀ h : Handle, (d'.kept? h).isSome ↔ (d.kept? h).isSome

/-- Only entries under one id are altered, and none of them goes or comes. -/
structure AltersAt (id : Nat) (d d' : State) : Prop where
  bare : d'.bare = d.bare
  lastId : d'.lastId = d.lastId
  live : ∀ h : Handle, (d'.kept? h).isSome ↔ (d.kept? h).isSome
  entry : ∀ h : Handle, h.id ≠ id → d'.kept? h = d.kept? h

/-- The same is kept, but for the arguments of kernels. -/
structure Alike (d d' : State) : Prop where
  bare : d'.bare = d.bare
  lastId_le : d.lastId ≤ d'.lastId
  entry : ∀ h : Handle, Option.Rel Entry.Like (d.kept? h) (d'.kept? h)

theorem serial_eq_of_bare {d d' : State} (h : d'.bare = d.bare) : d'.serial = d.serial := by
  change d'.bare.serial = d.bare.serial
  rw [h]

instance : Frame Grown where
  refl d := ⟨rfl, Nat.le_refl _, fun _ x _ hx => ⟨x, hx, Entry.Like.refl x⟩⟩
  trans {a b c} h h' := by
    refine ⟨h'.bare.trans h.bare, Nat.le_trans h.lastId_le h'.lastId_le, fun k z hk hz => ?_⟩
    obtain ⟨y, hy, hyz⟩ := h'.kept k z (Nat.le_trans hk h.lastId_le) hz
    obtain ⟨x, hx, hxy⟩ := h.kept k y hk hy
    exact ⟨x, hx, hxy.trans hyz⟩

instance : Frame Intact where
  refl _ := ⟨rfl, Nat.le_refl _, fun _ _ _ hx => hx⟩
  trans h h' := ⟨h'.bare.trans h.bare, Nat.le_trans h.lastId_le h'.lastId_le, fun k x hk hx =>
    h.kept k x hk (h'.kept k x (Nat.le_trans hk h.lastId_le) hx)⟩

instance : Frame Fades where
  refl _ := ⟨rfl, rfl, fun _ _ _ hx => hx⟩
  trans h h' := ⟨h'.bare.trans h.bare, h'.lastId.trans h.lastId, fun kind id x hx =>
    h.entry kind id x (h'.entry kind id x hx)⟩

instance : Frame SameTables where
  refl _ := ⟨rfl, rfl, rfl, rfl, rfl⟩
  trans h h' :=
    ⟨h'.serial.trans h.serial, h'.lastId.trans h.lastId, h'.memories.trans h.memories,
      h'.programs.trans h.programs, h'.kernels.trans h.kernels⟩

instance : Frame SameLive where
  refl _ := ⟨rfl, Nat.le_refl _, fun _ => Iff.rfl⟩
  trans h h' :=
    ⟨h'.serial.trans h.serial, Nat.le_trans h.lastId_le h'.lastId_le,
      fun k => (h'.live k).trans (h.live k)⟩

theorem rel_like_refl (o : Option Entry) : Option.Rel Entry.Like o o := by
  cases o
  · exact .none
  · exact .some (Entry.Like.refl _)

theorem rel_like_trans {o o' o'' : Option Entry} (h : Option.Rel Entry.Like o o')
    (h' : Option.Rel Entry.Like o' o'') : Option.Rel Entry.Like o o'' := by
  cases h with
  | none => exact h'
  | some hxy =>
    cases h' with
    | some hyz => exact .some (hxy.trans hyz)

instance : Frame Alike where
  refl _ := ⟨rfl, Nat.le_refl _, fun _ => rel_like_refl _⟩
  trans h h' :=
    ⟨h'.bare.trans h.bare, Nat.le_trans h.lastId_le h'.lastId_le,
      fun k => rel_like_trans (h.entry k) (h'.entry k)⟩

instance (id : Nat) : Frame (AltersAt id) where
  refl _ := ⟨rfl, rfl, fun _ => Iff.rfl, fun _ _ => rfl⟩
  trans h h' :=
    ⟨h'.bare.trans h.bare, h'.lastId.trans h.lastId, fun k => (h'.live k).trans (h.live k),
      fun k hk => (h'.entry k hk).trans (h.entry k hk)⟩

theorem SameTables.lookup_eq {d d' : State} (h : SameTables d d') : d'.lookup = d.lookup := by
  funext kind id
  cases kind <;> simp only [lookup, h.memories, h.programs, h.kernels]

theorem SameTables.sameLive {d d' : State} (h : SameTables d d') : SameLive d d' :=
  ⟨h.serial, Nat.le_of_eq h.lastId.symm, fun k => by rw [kept?, h.lookup_eq, kept?]⟩

theorem SameLive.fresh {d d' : State} (h : SameLive d d') (hd : d.Fresh) : d'.Fresh :=
  fun k hk => Nat.le_trans (hd k ((h.live k).1 hk)) h.lastId_le

theorem SameLive.apart {d d' : State} (h : SameLive d d') (hd : d.Apart) : d'.Apart :=
  fun j k hj hk hid => hd j k ((h.live j).1 hj) ((h.live k).1 hk) hid

theorem AltersAt.sameLive {id : Nat} {d d' : State} (h : AltersAt id d d') : SameLive d d' :=
  ⟨serial_eq_of_bare h.bare, Nat.le_of_eq h.lastId.symm, h.live⟩

theorem Alike.sameLive {d d' : State} (h : Alike d d') : SameLive d d' := by
  refine ⟨serial_eq_of_bare h.bare, h.lastId_le, fun k => ?_⟩
  have hk := h.entry k
  generalize d.kept? k = o, d'.kept? k = o' at hk ⊢
  cases hk <;> simp

theorem Alike.grown {d d' : State} (h : Alike d d') : Grown d d' := by
  refine ⟨h.bare, h.lastId_le, fun k x' _ hx => ?_⟩
  have hk := h.entry k
  rw [hx] at hk
  generalize d.kept? k = o at hk ⊢
  cases hk with
  | some hxy => exact ⟨_, rfl, hxy⟩

theorem Intact.grown {d d' : State} (h : Intact d d') : Grown d d' :=
  ⟨h.bare, h.lastId_le, fun k x hk hx => ⟨x, h.kept k x hk hx, Entry.Like.refl x⟩⟩

theorem Fades.intact {d d' : State} (h : Fades d d') : Intact d d' := by
  refine ⟨h.bare, Nat.le_of_eq h.lastId.symm, fun k x _ hx => ?_⟩
  obtain ⟨hl, hkind⟩ := Option.filter_eq_some_iff.1 hx
  exact Option.filter_eq_some_iff.2 ⟨h.entry _ _ x hl, hkind⟩

/-- What was created since may be altered. -/
theorem Intact.alter {id : Nat} {d₀ d d' : State} (h : Intact d₀ d) (h' : AltersAt id d d')
    (hid : d₀.lastId < id) : Intact d₀ d' := by
  refine ⟨h'.bare.trans h.bare, h'.lastId ▸ h.lastId_le, fun k x hk hx => ?_⟩
  have hne : k.id ≠ id := by omega
  exact h.kept k x hk (h'.entry k hne ▸ hx)

theorem intact_add (d : State) (x : Entry) : Intact d (d.add x) := by
  refine ⟨by cases x <;> rfl, Nat.le_succ _, fun k y hk hy => ?_⟩
  rwa [kept?_add_of_ne d x (by omega)] at hy

theorem fades_release (d : State) (h : Handle) : Fades d (d.release h) := by
  have hbare : (d.release h).bare = d.bare := by
    unfold release
    split <;> rfl
  refine ⟨hbare, d.lastId_release h, fun kind id x hx => ?_⟩
  rw [lookup_release] at hx
  split at hx
  · cases hx
  · exact hx

/-- The driver with other bytes in the memory of an id. -/
def withBytes (d : State) (id : Nat) (bytes : List UInt8) : State :=
  { d with memories := d.memories.modify id fun e => { e with bytes } }

theorem get?_withBytes (d : State) (id : Nat) (bytes : List UInt8) (k : Nat) :
    (d.withBytes id bytes).memories.get? k =
      if k = id then (d.memories.get? k).map fun e => { e with bytes } else d.memories.get? k :=
  Table.get?_modify _ _ _ _

theorem get?_withBytes_self {d : State} {id : Nat} {e : Storage}
    (he : d.memories.get? id = some e) (bytes : List UInt8) :
    (d.withBytes id bytes).memories.get? id = some { e with bytes } := by
  rw [get?_withBytes, if_pos rfl, he, Option.map_some]

/-- Of two changes of the bytes of one memory the later one counts. -/
theorem withBytes_withBytes (d : State) (id : Nat) (bytes bytes' : List UInt8) :
    (d.withBytes id bytes).withBytes id bytes' = d.withBytes id bytes' := by
  unfold withBytes
  rw [Table.modify_modify]

theorem altersAt_withBytes (d : State) (id : Nat) (bytes : List UInt8) :
    AltersAt id d (d.withBytes id bytes) := by
  unfold withBytes
  refine ⟨rfl, rfl, fun h => ?_, fun h hne => ?_⟩
  · cases hk : h.kind <;> simp only [kept?, lookup, hk, Table.get?_modify]
    all_goals
      split
      · cases d.memories.get? h.id <;> simp [Option.filter_some, Entry.kind]
      · rfl
  · cases hk : h.kind <;> simp [kept?, lookup, hk, Table.get?_modify, hne]

theorem altersAt_program (d : State) (id : Nat) (f : Program → Program) :
    AltersAt id d { d with programs := d.programs.modify id f } := by
  refine ⟨rfl, rfl, fun h => ?_, fun h hne => ?_⟩
  · cases hk : h.kind <;> simp only [kept?, lookup, hk, Table.get?_modify]
    split
    · cases d.programs.get? h.id <;> simp [Option.filter_some, Entry.kind]
    · rfl
  · cases hk : h.kind <;> simp [kept?, lookup, hk, Table.get?_modify, hne]

theorem alike_slots (d : State) (id index : Nat) (a : Argument) :
    Alike d { d with kernels := d.kernels.modify id fun k =>
      { k with slots := k.slots.set index (some a) } } := by
  refine ⟨rfl, Nat.le_refl _, fun h => ?_⟩
  cases hk : h.kind <;> simp only [kept?, lookup, hk, Table.get?_modify]
  case kernel =>
    split
    · cases d.kernels.get? h.id with
      | none => exact .none
      | some k => exact .some ⟨rfl, by simp⟩
    · exact rel_like_refl _
  all_goals exact rel_like_refl _

end State

/-! ## Calls that look -/

section Looking

variable {R : State → State → Prop} [Frame R] {α : Type}

@[simp] theorem within_fail (call : String) (status : Status) :
    Action.Within R (fail call status : Call α) :=
  fun d => Frame.refl d

@[simp] theorem within_orFail (value : Option α) (call : String) (status : Status) :
    Action.Within R (orFail value call status) := by
  cases value <;> exact fun d => Frame.refl d

@[simp] theorem within_storageOf (m : Memory) : Action.Within R (storageOf m) := by
  unfold storageOf
  exact Action.within_bind Action.within_get fun d => within_orFail _ _ _

@[simp] theorem within_checkRange (e : Storage) (offset length : Nat) :
    Action.Within R (checkRange e offset length) := by
  unfold checkRange
  exact Action.within_ite (within_fail _ _)
    (Action.within_ite (Action.within_pure _) (within_fail _ _))

@[simp] theorem within_imageOf (e : Storage) : Action.Within R (imageOf e) :=
  within_orFail _ _ _

@[simp] theorem within_checkedRows (format : ImageFormat) (desc : ImageDesc) (origin : Origin)
    (region : Region) : Action.Within R (checkedRows format desc origin region) := by
  unfold checkedRows
  exact Action.within_ite (Action.within_pure _) (within_fail _ _)

theorem within_readBuffer (m : Memory) (offset length : Nat) :
    Action.Within R (readBuffer m offset length) := by
  unfold readBuffer
  refine Action.within_bind (within_storageOf m) fun e => ?_
  exact Action.within_bind (within_checkRange _ _ _) fun _ => Action.within_pure _

theorem within_readImage (m : Memory) (origin : Origin) (region : Region) (out : List UInt8) :
    Action.Within R (readImage m origin region out) := by
  unfold readImage
  refine Action.within_bind (within_storageOf m) fun e => ?_
  refine Action.within_bind (within_imageOf e) fun form => ?_
  refine Action.within_bind (within_checkedRows _ _ _ _) fun rows => ?_
  exact Action.within_when (within_fail _ _) (Action.within_pure _)

theorem within_programBinary (program : Handle) : Action.Within R (programBinary program) := by
  unfold programBinary
  refine Action.within_bind Action.within_get fun d => ?_
  refine Action.within_bind (within_orFail _ _ _) fun entry => ?_
  exact Action.within_when (within_fail _ _) (Action.within_pure _)

end Looking

/-! ## Calls that change nothing when they fail -/

/-- A call goes through on a driver, with an answer and the driver behind it. -/
def Call.Gives {α : Type} (c : Call α) (d : State) (a : α) (d' : State) : Prop :=
  c.run.run d = (.ok a, d')

/-- A call that fails changes nothing; if it goes through, the driver before, the answer and the
driver after are related. -/
def Tries {α : Type} (c : Call α) (Q : State → α → State → Prop) : Prop :=
  ∀ d, Action.Ensures (fun d' => d' = d) c (Q d) (fun d' => d' = d)

/-- A call adds an entry and gives its handle out, or fails and changes nothing. -/
def Creates {α : Type} (c : Call α) (handle : α → Handle) : Prop :=
  Tries c fun d a d' => ∃ x, d' = d.add x ∧ handle a = d.nextHandle x.kind

/-- A call only looks: it changes nothing, and if it goes through its answer fits the driver. -/
def Looks {α : Type} (c : Call α) (A : State → α → Prop) : Prop :=
  Tries c fun d a d' => A d a ∧ d' = d

section Tries

variable {α β : Type} {Q : State → α → State → Prop}

theorem Tries.within {R : State → State → Prop} [Frame R] {c : Call α} (hc : Tries c Q)
    (hQ : ∀ d a d', Q d a d' → R d d') : Action.Within R c := by
  intro d
  have h := hc d d rfl
  rcases hr : c.run.run d with ⟨e | a, d'⟩
  · rw [hr] at h
    obtain rfl : d' = d := h
    exact Frame.refl d'
  · rw [hr] at h
    exact hQ d a d' h

theorem Tries.of_gives {c : Call α} (hc : Tries c Q) {d d' : State} {a : α}
    (h : c.Gives d a d') : Q d a d' := by
  have hq := hc d d rfl
  rw [h] at hq
  exact hq

theorem Tries.mono {Q' : State → α → State → Prop} {c : Call α} (hc : Tries c Q)
    (hQ : ∀ d a d', Q d a d' → Q' d a d') : Tries c Q' := fun d =>
  Action.Ensures.mono (hc d) (fun _ h => h) (hQ d) fun _ h => h

/-- What follows a look starts from the driver that was looked at. -/
theorem Looks.bind {A : State → β → Prop} {a : Call β} {c : β → Call α} (ha : Looks a A) {d : State}
    {Q : α → State → Prop} (hc : ∀ x, A d x →
      Action.Ensures (fun d' => d' = d) (c x) Q (fun d' => d' = d)) :
    Action.Ensures (fun d' => d' = d) (a >>= c) Q (fun d' => d' = d) := by
  refine (ha d).bind fun x => ?_
  rintro _ ⟨hx, rfl⟩
  exact hc x hx _ rfl

/-- Behind a check the condition that it refuses does not hold. -/
theorem ensures_unless {p : Prop} [Decidable p] {call : String} {status : Status} {c : Call α}
    {d : State} {Q : α → State → Prop}
    (hc : ¬ p → Action.Ensures (fun d' => d' = d) c Q (fun d' => d' = d)) :
    Action.Ensures (fun d' => d' = d)
      (if p then (fail call status : Call PUnit) >>= fun _ => c else c) Q (fun d' => d' = d) := by
  by_cases hp : p
  · rw [if_pos hp]
    exact fun _ h => h
  · rw [if_neg hp]
    exact hc hp

end Tries

theorem looks_get : Looks (get : Call State) fun d s => s = d :=
  fun _ _ h => ⟨h, h⟩

theorem looks_orFail {α : Type} (value : Option α) (call : String) (status : Status) :
    Looks (orFail value call status) fun _ a => value = some a := by
  intro d d' h
  cases value with
  | none => exact h
  | some a => exact ⟨rfl, h⟩

theorem looks_storageOf (m : Memory) :
    Looks (storageOf m) fun d e => d.memories.get? m.handle.id = some e := by
  intro d
  unfold storageOf
  refine looks_get.bind fun s hs => ?_
  obtain rfl : s = d := hs
  exact looks_orFail _ _ _ s

theorem looks_checkRange (e : Storage) (offset length : Nat) :
    Looks (checkRange e offset length) fun _ _ =>
      e.image = none ∧ offset + length ≤ e.bytes.length := by
  intro d d' h
  unfold checkRange
  cases he : e.image with
  | some form => exact h
  | none =>
    by_cases hle : offset + length ≤ e.bytes.length
    · rw [if_neg (by simp), if_pos hle]
      exact ⟨⟨rfl, hle⟩, h⟩
    · rw [if_neg (by simp), if_neg hle]
      exact h

theorem looks_imageOf (e : Storage) : Looks (imageOf e) fun _ form => e.image = some form :=
  looks_orFail _ _ _

@[simp] theorem length_rowsOf (format : ImageFormat) (desc : ImageDesc) (origin : Origin)
    (region : Region) : (rowsOf format desc origin region).1.length = region.2.1 := by
  simp [rowsOf]

@[simp] theorem snd_rowsOf (format : ImageFormat) (desc : ImageDesc) (origin : Origin)
    (region : Region) : (rowsOf format desc origin region).2 = region.1 * format.pixelSize :=
  rfl

theorem looks_checkedRows (format : ImageFormat) (desc : ImageDesc) (origin : Origin)
    (region : Region) : Looks (checkedRows format desc origin region) fun _ rows =>
      fits desc origin region = true ∧ rows.1.length = region.2.1 ∧
        rows.2 = region.1 * format.pixelSize ∧ rows.1 = (rowsOf format desc origin region).1 := by
  intro d d' h
  unfold checkedRows
  by_cases hfits : fits desc origin region = true
  · rw [if_pos hfits]
    exact ⟨⟨hfits, length_rowsOf _ _ _ _, snd_rowsOf _ _ _ _, rfl⟩, h⟩
  · rw [if_neg hfits]
    exact h

/-! ## Calls that create -/

/-- Bytes are reserved only below the limit. -/
theorem looks_zeroed (call : String) (size : Nat) :
    Looks (zeroed call size) fun _ bytes =>
      size < allocationLimit ∧ bytes = List.replicate size 0 := by
  intro d d' h
  unfold zeroed
  by_cases hle : allocationLimit ≤ size
  · rw [if_pos hle]
    exact h
  · rw [if_neg hle]
    exact ⟨⟨Nat.lt_of_not_le hle, rfl⟩, h⟩

theorem tries_createBuffer (size : Nat) :
    Tries (createBuffer size) fun d m d' =>
      size < allocationLimit ∧ d' = d.add (.memory ⟨List.replicate size 0, none⟩) ∧
        m.handle = d.nextHandle .buffer := by
  intro d
  unfold createBuffer
  refine ensures_unless fun _ => (looks_zeroed _ _).bind fun bytes hbytes => ?_
  obtain ⟨hlt, rfl⟩ := hbytes
  rintro _ rfl
  exact ⟨hlt, rfl, rfl⟩

/-- A size below the limit is the size without a bound. -/
theorem byteSize_eq_exactSize {format : ImageFormat} {desc : ImageDesc}
    (h : desc.byteSize format < allocationLimit) :
    desc.byteSize format = desc.exactSize format := by
  have hlimit : allocationLimit < sizeBound - 1 := by decide
  rw [ImageDesc.byteSize_eq_cap] at h ⊢
  exact cap_eq_self (Nat.lt_trans h hlimit)

theorem tries_createImage (format : ImageFormat) (desc : ImageDesc) (data : Option (List UInt8)) :
    Tries (createImage format desc data) fun d m d' => ∃ bytes : List UInt8,
      bytes.length = desc.exactSize format ∧ desc.exactSize format < allocationLimit ∧
        d' = d.add (.memory ⟨bytes, some (format, desc)⟩) ∧ m.handle = d.nextHandle .image := by
  intro d
  unfold createImage
  refine ensures_unless fun _ => ensures_unless fun hdata => ?_
  refine (looks_zeroed _ _).bind fun bytes hbytes => ?_
  obtain ⟨hlt, rfl⟩ := hbytes
  rintro _ rfl
  refine ⟨_, ?_, byteSize_eq_exactSize hlt ▸ hlt, rfl, rfl⟩
  rw [← byteSize_eq_exactSize hlt]
  cases data with
  | none => exact List.length_replicate
  | some bytes => exact List.length_take_of_le (by simpa using hdata)

theorem tries_createProgram (source : String) :
    Tries (createProgram source) fun d h d' =>
      ¬ source.toList.all Text.isWhiteSpace ∧ d' = d.add (.program { source }) ∧
        h = d.nextHandle .program := by
  intro d
  unfold createProgram
  refine ensures_unless fun htext => ?_
  rintro _ rfl
  exact ⟨htext, rfl, rfl⟩

/-- **A binary** makes the program of the text behind its magic line. -/
theorem tries_createProgramBinary (binary : List UInt8) :
    Tries (createProgramBinary binary) fun d h d' =>
      ∃ body, afterMagic? binary = some body ∧
        let source := String.ofList (Text.decodeLenient body)
        ¬ source.toList.all Text.isWhiteSpace ∧ d' = d.add (.program { source }) ∧
          h = d.nextHandle .program := by
  intro d
  unfold createProgramBinary
  refine (looks_orFail _ _ _).bind fun body hbody => ?_
  exact Action.Ensures.mono (tries_createProgram _ d) (fun _ h => h)
    (fun _ _ h => ⟨body, hbody, h⟩) fun _ h => h

/-- **A kernel** of a built program has an empty slot for each parameter of its declaration. -/
theorem tries_createKernel (program : Handle) (name : String) :
    Tries (createKernel program name) fun d k d' => ∃ entry signature,
      d.programs.get? program.id = some entry ∧ entry.built = true ∧
        entry.signatures.find? (·.name == name) = some signature ∧
        d' = d.add (.kernel ⟨name, List.replicate signature.parameters none⟩) ∧
        k.1 = d.nextHandle .kernel := by
  intro d
  unfold createKernel
  refine looks_get.bind fun s hs => (looks_orFail _ _ _).bind fun entry hentry => ?_
  obtain rfl : s = d := hs
  refine ensures_unless fun hbuilt => (looks_orFail _ _ _).bind fun signature hsignature => ?_
  rintro _ rfl
  exact ⟨entry, signature, hentry, by simpa using hbuilt, hsignature, rfl, rfl⟩

theorem tries_cloneKernel (kernel : Handle) :
    Tries (cloneKernel kernel) fun d k d' => ∃ copy,
      d.kernels.get? kernel.id = some copy ∧ d' = d.add (.kernel copy) ∧
        k.1 = d.nextHandle .kernel := by
  intro d
  unfold cloneKernel
  refine looks_get.bind fun s hs => (looks_orFail _ _ _).bind fun copy hcopy => ?_
  obtain rfl : s = d := hs
  rintro _ rfl
  exact ⟨copy, hcopy, rfl, rfl⟩

theorem creates_createBuffer (size : Nat) : Creates (createBuffer size) (·.handle) :=
  (tries_createBuffer size).mono fun _ _ _ ⟨_, h⟩ => ⟨_, h⟩

theorem creates_createImage (format : ImageFormat) (desc : ImageDesc)
    (data : Option (List UInt8)) : Creates (createImage format desc data) (·.handle) :=
  (tries_createImage format desc data).mono fun _ _ _ ⟨_, _, _, h⟩ => ⟨_, h⟩

theorem creates_createProgram (source : String) : Creates (createProgram source) id :=
  (tries_createProgram source).mono fun _ _ _ ⟨_, h⟩ => ⟨_, h⟩

theorem creates_createProgramBinary (binary : List UInt8) :
    Creates (createProgramBinary binary) id :=
  (tries_createProgramBinary binary).mono fun _ _ _ ⟨_, _, _, h⟩ => ⟨_, h⟩

theorem creates_createKernel (program : Handle) (name : String) :
    Creates (createKernel program name) Prod.fst :=
  (tries_createKernel program name).mono fun _ _ _ ⟨_, _, _, _, _, h⟩ => ⟨_, h⟩

theorem creates_cloneKernel (kernel : Handle) : Creates (cloneKernel kernel) Prod.fst :=
  (tries_cloneKernel kernel).mono fun _ _ _ ⟨_, _, h⟩ => ⟨_, h⟩

theorem Creates.within_intact {α : Type} {c : Call α} {handle : α → Handle}
    (hc : Creates c handle) : Action.Within State.Intact c := by
  refine hc.within fun d a d' h => ?_
  obtain ⟨x, rfl, -⟩ := h
  exact d.intact_add x

/-! ## Calls that write -/

/-- **A write** replaces a stretch of a buffer. -/
theorem tries_writeBuffer (m : Memory) (offset : Nat) (data : List UInt8) :
    Tries (writeBuffer m offset data) fun d _ d' => ∃ bytes : List UInt8,
      d.memories.get? m.handle.id = some ⟨bytes, none⟩ ∧ offset + data.length ≤ bytes.length ∧
        d' = d.withBytes m.handle.id (overwrite bytes offset data) := by
  intro d
  unfold writeBuffer
  refine (looks_storageOf m).bind fun e he => (looks_checkRange _ _ _).bind fun _ hrange => ?_
  obtain ⟨bytes, image⟩ := e
  obtain ⟨rfl, hle⟩ := hrange
  rintro _ rfl
  exact ⟨bytes, he, hle, rfl⟩

/-- **A copy** replaces a stretch of a buffer by what another buffer, or the same one, held in a
stretch of the same length. -/
theorem tries_copyBuffer (src dst : Memory) (srcOffset dstOffset length : Nat) :
    Tries (copyBuffer src dst srcOffset dstOffset length) fun d _ d' =>
      ∃ source target : List UInt8, d.memories.get? src.handle.id = some ⟨source, none⟩ ∧
        d.memories.get? dst.handle.id = some ⟨target, none⟩ ∧
        srcOffset + length ≤ source.length ∧ dstOffset + length ≤ target.length ∧
        d' = d.withBytes dst.handle.id
          (overwrite target dstOffset (slice source srcOffset length)) := by
  intro d
  unfold copyBuffer
  refine (looks_storageOf src).bind fun e he => (looks_checkRange _ _ _).bind fun _ hsrc => ?_
  refine (looks_storageOf dst).bind fun f hf => (looks_checkRange _ _ _).bind fun _ hdst => ?_
  obtain ⟨source, image⟩ := e
  obtain ⟨target, image'⟩ := f
  obtain ⟨rfl, hsrc⟩ := hsrc
  obtain ⟨rfl, hdst⟩ := hdst
  rintro _ rfl
  exact ⟨source, target, he, hf, hsrc, hdst, rfl⟩

/-- **A reading** puts the rows of a rectangle of an image at the front of the output. -/
theorem looks_readImage (m : Memory) (origin : Origin) (region : Region) (out : List UInt8) :
    Looks (readImage m origin region out) fun d out' =>
      ∃ (bytes : List UInt8) (format : ImageFormat) (desc : ImageDesc),
        d.memories.get? m.handle.id = some ⟨bytes, some (format, desc)⟩ ∧
        fits desc origin region = true ∧
        region.2.1 * (region.1 * format.pixelSize) ≤ out.length ∧
        out' = overwrite out 0 (gather bytes (region.1 * format.pixelSize)
          (rowsOf format desc origin region).1).flatten := by
  intro d
  unfold readImage
  refine (looks_storageOf m).bind fun e he => (looks_imageOf e).bind fun form hform => ?_
  obtain ⟨bytes, image⟩ := e
  obtain rfl : image = some form := hform
  obtain ⟨format, desc⟩ := form
  refine (looks_checkedRows _ _ _ _).bind fun rows hrows => ensures_unless fun hlt => ?_
  obtain ⟨starts, length⟩ := rows
  obtain ⟨hfits, hcount, rfl, hstarts⟩ := hrows
  rw [hcount] at hlt
  rintro _ rfl
  exact ⟨⟨bytes, format, desc, he, hfits, Nat.le_of_not_lt hlt, by rw [← hstarts]⟩, rfl⟩

/-- **A write** into a rectangle of an image replaces its rows. -/
theorem tries_writeImage (m : Memory) (origin : Origin) (region : Region) (data : List UInt8) :
    Tries (writeImage m origin region data) fun d _ d' =>
      ∃ (bytes : List UInt8) (format : ImageFormat) (desc : ImageDesc),
        d.memories.get? m.handle.id = some ⟨bytes, some (format, desc)⟩ ∧
        fits desc origin region = true ∧
        region.2.1 * (region.1 * format.pixelSize) ≤ data.length ∧
        d' = d.withBytes m.handle.id (scatter bytes (rowsOf format desc origin region).1
          (chunksOf (region.1 * format.pixelSize) region.2.1 data)) := by
  intro d
  unfold writeImage
  refine (looks_storageOf m).bind fun e he => (looks_imageOf e).bind fun form hform => ?_
  obtain ⟨bytes, image⟩ := e
  obtain rfl : image = some form := hform
  obtain ⟨format, desc⟩ := form
  refine (looks_checkedRows _ _ _ _).bind fun rows hrows => ensures_unless fun hlt => ?_
  obtain ⟨starts, length⟩ := rows
  obtain ⟨hfits, hcount, rfl, hstarts⟩ := hrows
  rw [hcount] at hlt ⊢
  rintro _ rfl
  refine ⟨bytes, format, desc, he, hfits, Nat.le_of_not_lt hlt, ?_⟩
  rw [← hstarts]
  rfl

/-- **A copy** replaces the rows of a rectangle by those of a rectangle of the same extent, as they
were, of another image or of the same one. -/
theorem tries_copyImage (src dst : Memory) (srcOrigin dstOrigin : Origin) (region : Region) :
    Tries (copyImage src dst srcOrigin dstOrigin region) fun d _ d' =>
      ∃ (source target : List UInt8) (format : ImageFormat) (srcDesc dstDesc : ImageDesc),
        d.memories.get? src.handle.id = some ⟨source, some (format, srcDesc)⟩ ∧
        d.memories.get? dst.handle.id = some ⟨target, some (format, dstDesc)⟩ ∧
        fits srcDesc srcOrigin region = true ∧ fits dstDesc dstOrigin region = true ∧
        d' = d.withBytes dst.handle.id (scatter target (rowsOf format dstDesc dstOrigin region).1
          (gather source (region.1 * format.pixelSize)
            (rowsOf format srcDesc srcOrigin region).1)) := by
  intro d
  unfold copyImage
  refine (looks_storageOf src).bind fun e he => (looks_imageOf e).bind fun form hform => ?_
  obtain ⟨source, image⟩ := e
  obtain rfl : image = some form := hform
  obtain ⟨format, srcDesc⟩ := form
  refine (looks_checkedRows _ _ _ _).bind fun rows hrows => ?_
  obtain ⟨starts, length⟩ := rows
  obtain ⟨hsrc, -, rfl, hstarts⟩ := hrows
  -- The rows of the source are at hand here; that the destination may be the same does not matter.
  refine (looks_storageOf dst).bind fun f hf => (looks_imageOf f).bind fun form' hform' => ?_
  obtain ⟨target, image'⟩ := f
  obtain rfl : image' = some form' := hform'
  obtain ⟨format', dstDesc⟩ := form'
  refine ensures_unless fun heq => (looks_checkedRows _ _ _ _).bind fun rows' hrows' => ?_
  obtain rfl : format' = format := Decidable.of_not_not heq
  obtain ⟨starts', length'⟩ := rows'
  obtain ⟨hdst, -, -, hstarts'⟩ := hrows'
  rintro _ rfl
  refine ⟨source, target, format', srcDesc, dstDesc, he, hf, hsrc, hdst, ?_⟩
  rw [← hstarts, ← hstarts']
  rfl

theorem within_writeBuffer (m : Memory) (offset : Nat) (data : List UInt8) :
    Action.Within (State.AltersAt m.handle.id) (writeBuffer m offset data) := by
  refine (tries_writeBuffer m offset data).within fun d _ d' h => ?_
  obtain ⟨bytes, -, -, rfl⟩ := h
  exact d.altersAt_withBytes _ _

theorem within_copyBuffer (src dst : Memory) (srcOffset dstOffset length : Nat) :
    Action.Within (State.AltersAt dst.handle.id)
      (copyBuffer src dst srcOffset dstOffset length) := by
  refine (tries_copyBuffer src dst srcOffset dstOffset length).within fun d _ d' h => ?_
  obtain ⟨source, target, -, -, -, -, rfl⟩ := h
  exact d.altersAt_withBytes _ _

theorem within_copyImage (src dst : Memory) (srcOrigin dstOrigin : Origin) (region : Region) :
    Action.Within (State.AltersAt dst.handle.id)
      (copyImage src dst srcOrigin dstOrigin region) := by
  refine (tries_copyImage src dst srcOrigin dstOrigin region).within fun d _ d' h => ?_
  obtain ⟨source, target, format, srcDesc, dstDesc, -, -, -, -, rfl⟩ := h
  exact d.altersAt_withBytes _ _

/-! ## Programs, kernels and settings -/

/-- **A build** finds the kernels of a program, unless lines of its source ask for a failure. -/
theorem run_buildProgram {d : State} {program : Handle} {p : Program}
    (hp : d.programs.get? program.id = some p) (options : String) :
    (buildProgram program options).run.run d =
      if errorLines p.source = [] then
        (.ok (), { d with programs := d.programs.modify program.id fun p =>
          { p with built := true, signatures := declarations p.source } })
      else
        (.error (.buildFailure (buildLog (errorLines p.source))),
          { d with programs := d.programs.modify program.id fun p =>
            { p with built := false } }) := by
  unfold buildProgram
  rw [Action.run_get_bind, hp]
  change (if (errorLines p.source).isEmpty then _ else _ : Call Unit).run.run d = _
  by_cases he : errorLines p.source = []
  · rw [if_pos (by simp [he]), if_pos he]
    rfl
  · rw [if_neg (by simpa using he), if_neg he]
    rfl

/-- What is no program cannot be built. -/
theorem run_buildProgram_of_none {d : State} {program : Handle}
    (hp : d.programs.get? program.id = none) (options : String) :
    (buildProgram program options).run.run d =
      (.error (.returned "clBuildProgram" .invalidProgram), d) := by
  unfold buildProgram
  rw [Action.run_get_bind, hp]
  rfl

/-- **The binary** of a program that was built is its source behind the magic line. -/
theorem looks_programBinary (program : Handle) :
    Looks (programBinary program) fun d binary => ∃ p, d.programs.get? program.id = some p ∧
      p.built = true ∧ binary = binaryMagic ++ Text.bytesOf p.source := by
  intro d
  unfold programBinary
  refine looks_get.bind fun s hs => (looks_orFail _ _ _).bind fun p hp => ?_
  obtain rfl : s = d := hs
  refine ensures_unless fun hbuilt => ?_
  rintro _ rfl
  exact ⟨⟨p, hp, by simpa using hbuilt, rfl⟩, rfl⟩

theorem within_buildProgram (program : Handle) (options : String) :
    Action.Within (State.AltersAt program.id) (buildProgram program options) := by
  unfold buildProgram
  refine Action.within_bind Action.within_get fun d => ?_
  refine Action.within_bind (within_orFail _ _ _) fun entry => Action.within_ite ?_ ?_
  · exact fun d => State.altersAt_program d program.id _
  · refine Action.within_bind (fun d => State.altersAt_program d program.id _) fun _ => ?_
    exact Action.within_throw _

theorem tries_selectPlatform (index : Nat) :
    Tries (selectPlatform index) fun d _ d' => d.SameTables d' := by
  intro d
  unfold selectPlatform
  refine ensures_unless fun _ => ?_
  rintro _ rfl
  exact ⟨rfl, rfl, rfl, rfl, rfl⟩

theorem tries_selectDevice (index : Nat) :
    Tries (selectDevice index) fun d _ d' => d.SameTables d' := by
  intro d
  unfold selectDevice
  refine ensures_unless fun _ => ?_
  rintro _ rfl
  exact ⟨rfl, rfl, rfl, rfl, rfl⟩

theorem tries_flush : Tries flush fun d _ d' => d.SameTables d' := by
  rintro d _ rfl
  exact ⟨rfl, rfl, rfl, rfl, rfl⟩

theorem tries_finish : Tries finish fun d _ d' => d.SameTables d' := by
  rintro d _ rfl
  exact ⟨rfl, rfl, rfl, rfl, rfl⟩

/-- The argument that a value makes. -/
def ArgumentValue.argument : ArgumentValue → Argument
  | .memory m => .memory m.handle.id
  | .bytes value => .bytes value

theorem looks_argumentOf (value : ArgumentValue) :
    Looks (argumentOf value) fun d a =>
      (∀ id, value.argument = .memory id → d.memories.contains id = true) ∧
        a = value.argument := by
  intro d
  cases value with
  | bytes bytes => exact Action.Ensures.pure fun _ h => ⟨⟨nofun, rfl⟩, h⟩
  | memory m =>
    refine looks_get.bind fun s hs => (looks_orFail _ _ _).bind fun e he => ?_
    obtain rfl : s = d := hs
    rintro _ rfl
    refine ⟨⟨fun id hid => ?_, rfl⟩, rfl⟩
    obtain rfl := Argument.memory.inj hid
    rw [Table.contains, he]
    rfl

/-- **An argument** is set in the slot of its number. If it is memory, the driver keeps it. -/
theorem tries_setArgument (kernel : Handle) (index : Nat) (value : ArgumentValue) :
    Tries (setArgument kernel index value) fun d _ d' =>
      (∀ id, value.argument = .memory id → d.memories.contains id = true) ∧
      (∃ k, d.kernels.get? kernel.id = some k ∧ index < k.slots.length) ∧
      d' = { d with kernels := d.kernels.modify kernel.id fun k =>
        { k with slots := k.slots.set index (some value.argument) } } := by
  intro d
  unfold setArgument
  refine (looks_argumentOf value).bind fun a ha => looks_get.bind fun s hs => ?_
  obtain ⟨hlive, rfl⟩ := ha
  obtain rfl : s = d := hs
  refine (looks_orFail _ _ _).bind fun k hk => ensures_unless fun hi => ?_
  rintro _ rfl
  exact ⟨hlive, ⟨k, hk, Nat.lt_of_not_le hi⟩, rfl⟩

theorem within_setArgument (kernel : Handle) (index : Nat) (value : ArgumentValue) :
    Action.Within State.Alike (setArgument kernel index value) := by
  refine (tries_setArgument kernel index value).within fun d _ d' h => ?_
  obtain ⟨-, -, rfl⟩ := h
  exact d.alike_slots kernel.id index value.argument

/-- **A launch** is recorded with the values that all slots of the kernel have at that moment. -/
theorem tries_enqueueKernel (kernel : Handle) (globalSize : List Nat)
    (localSize : Option (List Nat)) :
    Tries (enqueueKernel kernel globalSize localSize) fun d _ d' =>
      ∃ k arguments, d.kernels.get? kernel.id = some k ∧ k.slots.mapM id = some arguments ∧
        d' = { d with launches := d.launches ++ [⟨k.name, globalSize, localSize, arguments⟩] } := by
  intro d
  unfold enqueueKernel
  extract_lets rest
  have hrest : Action.Ensures (fun d' => d' = d) (rest ()) (fun _ d' =>
      ∃ k arguments, d.kernels.get? kernel.id = some k ∧ k.slots.mapM id = some arguments ∧
        d' = { d with launches := d.launches ++ [⟨k.name, globalSize, localSize, arguments⟩] })
      (fun d' => d' = d) := by
    refine looks_get.bind fun s hs => (looks_orFail _ _ _).bind fun k hk => ?_
    obtain rfl : s = d := hs
    refine (looks_orFail _ _ _).bind fun arguments ha => ?_
    rintro _ rfl
    exact ⟨k, arguments, hk, ha, rfl⟩
  split
  · exact fun _ h => h
  · exact hrest

end DriverBench.Simulator
