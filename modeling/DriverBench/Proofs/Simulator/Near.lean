import DriverBench.Proofs.Reading.Parallel
import DriverBench.Proofs.Simulator.Fleet
/-!
# Drivers that differ in what they still keep

A driver that is not waited for keeps longer what its operations may still use. Two drivers of which
only one is waited for come apart in this: what both keep under an id is the same, but either may
have forgotten what the other one keeps (`State.Near`). A call is even between such drivers as soon
as they keep the same under the handles that the call is given: the handles that it gives out are
the same, and so are the answers and the launches.
-/

namespace DriverBench

/-- Two tables have the same value under a key, where both have one; and under some keys they have
the same, or neither has anything. -/
structure Table.Agrees {α : Type} (keys : List Nat) (t t' : Table α) : Prop where
  value : ∀ key a a', t.get? key = some a → t'.get? key = some a' → a' = a
  same : ∀ key ∈ keys, t'.get? key = t.get? key

namespace Table.Agrees

variable {α : Type} {keys : List Nat} {t t' : Table α}

theorem refl (t : Table α) : t.Agrees keys t :=
  ⟨fun _ _ _ h h' => Option.some.inj (h'.symm.trans h), fun _ _ => rfl⟩

theorem symm (h : t.Agrees keys t') : t'.Agrees keys t :=
  ⟨fun key a a' ha ha' => (h.value key a' a ha' ha).symm, fun key hk => (h.same key hk).symm⟩

theorem insert (h : t.Agrees keys t') (key : Nat) (a : α) :
    (t.insert key a).Agrees keys (t'.insert key a) := by
  refine ⟨fun k b b' hb hb' => ?_, fun k hk => ?_⟩
  · rw [get?_insert] at hb hb'
    by_cases heq : k = key
    · rw [if_pos heq] at hb hb'
      exact Option.some.inj (hb'.symm.trans hb)
    · rw [if_neg heq] at hb hb'
      exact h.value k b b' hb hb'
  · rw [get?_insert, get?_insert, h.same k hk]

theorem modify (h : t.Agrees keys t') (key : Nat) (f : α → α) :
    (t.modify key f).Agrees keys (t'.modify key f) := by
  refine ⟨fun k b b' hb hb' => ?_, fun k hk => ?_⟩
  · obtain ⟨a, ha, rfl⟩ := exists_of_get?_modify hb
    obtain ⟨a', ha', rfl⟩ := exists_of_get?_modify hb'
    rw [h.value k a a' ha ha']
  · rw [get?_modify, get?_modify, h.same k hk]

end Table.Agrees

namespace Simulator

open Device

namespace State

/-- **Drivers that differ in what they still keep**: they gave out the same ids and were told the
same, but for waiting; what both of them keep under an id is the same, and under some ids neither of
them keeps more than the other one. -/
structure Near (ids : List Nat) (d d' : State) : Prop where
  serial : d'.serial = d.serial
  lastId : d'.lastId = d.lastId
  launches : d'.launches = d.launches
  flushes : d'.flushes = d.flushes
  selection : d'.selection = d.selection
  memories : d.memories.Agrees ids d'.memories
  programs : d.programs.Agrees ids d'.programs
  kernels : d.kernels.Agrees ids d'.kernels

variable {ids : List Nat} {d d' : State}

theorem Near.refl (d : State) : d.Near ids d :=
  ⟨rfl, rfl, rfl, rfl, rfl, .refl _, .refl _, .refl _⟩

theorem Near.symm (h : d.Near ids d') : d'.Near ids d :=
  ⟨h.serial.symm, h.lastId.symm, h.launches.symm, h.flushes.symm, h.selection.symm,
    h.memories.symm, h.programs.symm, h.kernels.symm⟩

theorem Near.forget (h : d.Near ids d') : d.Near [] d' :=
  ⟨h.serial, h.lastId, h.launches, h.flushes, h.selection, ⟨h.memories.value, nofun⟩,
    ⟨h.programs.value, nofun⟩, ⟨h.kernels.value, nofun⟩⟩

/-- What both keep in one place is the same. -/
theorem Near.entry (h : d.Near ids d') {kind : HandleKind} {id : Nat} {x x' : Entry}
    (hx : d.lookup kind id = some x) (hx' : d'.lookup kind id = some x') : x' = x := by
  cases kind <;>
  · obtain ⟨a, ha, rfl⟩ := Option.map_eq_some_iff.1 hx
    obtain ⟨a', ha', rfl⟩ := Option.map_eq_some_iff.1 hx'
    first
      | rw [h.memories.value id a a' ha ha']
      | rw [h.programs.value id a a' ha ha']
      | rw [h.kernels.value id a a' ha ha']

/-- Either may forget something on its own. -/
theorem Near.fade {e e' : State} (h : d.Near [] d') (he : d.Fades e) (he' : d'.Fades e') :
    e.Near [] e' := by
  have hbare : ∀ {α : Type} {a b : State} (f : State → α), a.Fades b → f b.bare = f a.bare :=
    fun f hab => congrArg f hab.bare
  refine ⟨?_, ?_, ?_, ?_, ?_, ⟨fun id a a' ha ha' => ?_, nofun⟩, ⟨fun id a a' ha ha' => ?_, nofun⟩,
    ⟨fun id a a' ha ha' => ?_, nofun⟩⟩
  -- What either side keeps now it kept before, where what both kept was the same.
  · exact (hbare (·.serial) he').trans (h.serial.trans (hbare (·.serial) he).symm)
  · rw [he.lastId, he'.lastId, h.lastId]
  · exact (hbare (·.launches) he').trans (h.launches.trans (hbare (·.launches) he).symm)
  · exact (hbare (·.flushes) he').trans (h.flushes.trans (hbare (·.flushes) he).symm)
  · exact (hbare (·.selection) he').trans (h.selection.trans (hbare (·.selection) he).symm)
  · have hx := he.entry .buffer id (.memory a) (by rw [lookup, ha]; rfl)
    have hx' := he'.entry .buffer id (.memory a') (by rw [lookup, ha']; rfl)
    exact Entry.memory.inj (h.entry hx hx')
  · have hx := he.entry .program id (.program a) (by rw [lookup, ha]; rfl)
    have hx' := he'.entry .program id (.program a') (by rw [lookup, ha']; rfl)
    exact Entry.program.inj (h.entry hx hx')
  · have hx := he.entry .kernel id (.kernel a) (by rw [lookup, ha]; rfl)
    have hx' := he'.entry .kernel id (.kernel a') (by rw [lookup, ha']; rfl)
    exact Entry.kernel.inj (h.entry hx hx')

/-- What the one driver keeps under the id of a handle that both know, the other one keeps too. -/
theorem Near.lookup_of_kept (h : d.Near ids d') (ha : d.Apart) {k : Handle}
    (hk : (d.kept? k).isSome) (hk' : (d'.kept? k).isSome) {kind : HandleKind} {x : Entry}
    (hx : d.lookup kind k.id = some x) : d'.lookup kind k.id = some x := by
  obtain ⟨y, hy⟩ := Option.isSome_iff_exists.1 hk'
  have hy' := (Option.filter_eq_some_iff.1 hy).1
  -- The id stands for one thing, so the place is that of the handle.
  have hkind : x.kind = k.kind := by
    refine ha ⟨k.id, x.kind, none⟩ k ?_ hk rfl
    rw [kept?_of_lookup hx none]
    rfl
  have htable : k.kind.table = kind.table := hkind ▸ table_eq_of_lookup hx
  rw [lookup_congr htable] at hy'
  rw [hy', h.entry hx hy']

/-- A driver knows a handle: it keeps something under it, and its ids stand for one thing each. -/
def Knows (d : State) (k : Handle) : Prop :=
  d.Apart ∧ (d.kept? k).isSome

/-- **Drivers that know the same handles** keep the same under their ids. -/
theorem Near.knowing (h : d.Near [] d') {hs : List Handle}
    (hk : ∀ k ∈ hs, d.Knows k ∧ d'.Knows k) : d.Near (hs.map (·.id)) d' := by
  have hsame : ∀ id ∈ hs.map (·.id), ∀ kind, d'.lookup kind id = d.lookup kind id := by
    intro id hid kind
    obtain ⟨k, hmem, rfl⟩ := List.mem_map.1 hid
    obtain ⟨⟨ha, hl⟩, ha', hl'⟩ := hk k hmem
    exact Option.ext fun x => ⟨h.symm.lookup_of_kept ha' hl' hl, h.lookup_of_kept ha hl hl'⟩
  refine ⟨h.serial, h.lastId, h.launches, h.flushes, h.selection,
    ⟨h.memories.value, fun id hid => ?_⟩, ⟨h.programs.value, fun id hid => ?_⟩,
    ⟨h.kernels.value, fun id hid => ?_⟩⟩
  · exact Option.map_injective (fun _ _ => Entry.memory.inj) (hsame id hid .buffer)
  · exact Option.map_injective (fun _ _ => Entry.program.inj) (hsame id hid .program)
  · exact Option.map_injective (fun _ _ => Entry.kernel.inj) (hsame id hid .kernel)

end State

/-! ## Fleets -/

namespace Fleet

open State (Near Fades)

variable {f f' g g' : Fleet}

theorem Pairs.fade (h : Pairs (Near []) f f') (hg : Pairs Fades f g) (hg' : Pairs Fades f' g') :
    Pairs (Near []) g g' := by
  intro n
  have hn := h n
  have hgn := hg n
  have hgn' := hg' n
  generalize f.get? n = o, f'.get? n = o', g.get? n = p, g'.get? n = p' at hn hgn hgn' ⊢
  cases hn with
  | none =>
    cases hgn
    cases hgn'
    exact .none
  | some hd =>
    cases hgn with
    | some he =>
      cases hgn' with
      | some he' => exact .some (hd.fade he he')

/-- What both fleets keep under a handle is the same. -/
theorem Pairs.kept?_unique (h : Pairs (Near []) f f') {k : Handle} {x x' : Entry}
    (hx : f.kept? k = some x) (hx' : f'.kept? k = some x') : x' = x := by
  unfold kept? at hx hx'
  obtain ⟨d, hd, hkept⟩ := Option.bind_eq_some_iff.1 hx
  obtain ⟨d', hd', hkept'⟩ := Option.bind_eq_some_iff.1 hx'
  obtain ⟨n, hn, hget⟩ := Option.bind_eq_some_iff.1 hd
  rw [hn, Option.bind_some] at hd'
  obtain ⟨d₁, hget₁, hnear⟩ := h.exists_of_left hget
  obtain rfl : d₁ = d' := Option.some.inj (hget₁.symm.trans hd')
  exact hnear.entry (Option.filter_eq_some_iff.1 hkept).1 (Option.filter_eq_some_iff.1 hkept').1

/-- A change of the drivers with one number. -/
theorem Pairs.modify_both (h : Pairs (Near []) f f') (n : Nat) {a a' : State → State}
    (ha : ∀ d d', f.get? n = some d → f'.get? n = some d' → d.Near [] d' →
      (a d).Near [] (a' d')) :
    Pairs (Near []) (f.modify n a) (f'.modify n a') := by
  intro k
  rw [get?_modify, get?_modify]
  by_cases hk : k = n
  · subst hk
    rw [if_pos rfl, if_pos rfl]
    cases hd : f.get? k with
    | none =>
      have hkn := h k
      rw [hd] at hkn
      generalize f'.get? k = o at hkn ⊢
      cases hkn
      exact .none
    | some d =>
      obtain ⟨d', hd', hdd⟩ := h.exists_of_left hd
      rw [hd']
      exact .some (ha d d' hd hd' hdd)
  · rw [if_neg hk, if_neg hk]
    exact h k

/-- A new driver on both sides. -/
theorem Pairs.start_both (h : Pairs (Near []) f f') : Pairs (Near []) f.start.2 f'.start.2 := by
  intro n
  rw [get?_start, get?_start, h.length_eq]
  by_cases hn : n = f.drivers.length
  · rw [if_pos hn, if_pos hn]
    exact .some (.refl _)
  · rw [if_neg hn, if_neg hn]
    exact h n

end Fleet

/-! ## Calls -/

section Calls

open DriverBench.Action State

variable {α : Type} {ids : List Nat}

@[simp] theorem even_fail (call : String) (status : Status) :
    Even (Near ids) (fail call status : Call α) :=
  even_throw _

@[simp] theorem even_orFail (value : Option α) (call : String) (status : Status) :
    Even (Near ids) (orFail value call status) := by
  cases value
  · exact even_fail _ _
  · exact even_pure _

/-! A change of one table, made on both sides. -/

theorem even_modifyMemories {f : Table Storage → Table Storage}
    (hf : ∀ t t', t.Agrees ids t' → (f t).Agrees ids (f t')) :
    Even (Near ids) (modify fun d => { d with memories := f d.memories } : Call PUnit) :=
  even_modify fun _ _ h => { h with memories := hf _ _ h.memories }

theorem even_modifyPrograms {f : Table Program → Table Program}
    (hf : ∀ t t', t.Agrees ids t' → (f t).Agrees ids (f t')) :
    Even (Near ids) (modify fun d => { d with programs := f d.programs } : Call PUnit) :=
  even_modify fun _ _ h => { h with programs := hf _ _ h.programs }

theorem even_modifyKernels {f : Table Kernel → Table Kernel}
    (hf : ∀ t t', t.Agrees ids t' → (f t).Agrees ids (f t')) :
    Even (Near ids) (modify fun d => { d with kernels := f d.kernels } : Call PUnit) :=
  even_modify fun _ _ h => { h with kernels := hf _ _ h.kernels }

@[simp] theorem even_allocate (kind : HandleKind) : Even (Near ids) (allocate kind) := by
  intro d d' h _ _
  refine ⟨?_, { h with lastId := congrArg (· + 1) h.lastId }⟩
  change Except.ok (⟨d'.lastId + 1, kind, some d'.serial⟩ : Handle) = .ok ⟨d.lastId + 1, kind, _⟩
  rw [h.lastId, h.serial]

/-! ## Memory -/

@[simp] theorem even_zeroed (call : String) (size : Nat) : Even (Near ids) (zeroed call size) :=
  even_ite (even_fail _ _) (even_pure _)

theorem even_createBuffer (size : Nat) : Even (Near ids) (createBuffer size) := by
  unfold createBuffer
  refine even_when (even_fail _ _) (even_bind (even_zeroed _ _) fun bytes => ?_)
  refine even_bind (even_allocate _) fun h => even_bind ?_ fun _ => even_pure _
  exact even_modifyMemories fun _ _ ht => ht.insert _ _

theorem even_createImage (format : ImageFormat) (desc : ImageDesc) (data : Option (List UInt8)) :
    Even (Near ids) (createImage format desc data) := by
  unfold createImage
  refine even_when (even_fail _ _) (even_when (even_fail _ _) ?_)
  refine even_bind (even_zeroed _ _) fun zeros => even_bind (even_allocate _) fun h => ?_
  exact even_bind (even_modifyMemories fun _ _ ht => ht.insert _ _) fun _ => even_pure _

section Known

variable {m m' : Memory} {program kernel : Handle}

theorem even_storageOf (hm : m.handle.id ∈ ids) : Even (Near ids) (storageOf m) :=
  even_get_bind (fun d d' h => by rw [h.memories.same _ hm]) fun d => even_orFail _ _ _

theorem even_putBytes (m : Memory) (bytes : List UInt8) : Even (Near ids) (putBytes m bytes) :=
  even_modifyMemories fun _ _ ht => ht.modify _ _

@[simp] theorem even_checkRange (e : Storage) (offset length : Nat) :
    Even (Near ids) (checkRange e offset length) :=
  even_ite (even_fail _ _) (even_ite (even_pure _) (even_fail _ _))

@[simp] theorem even_imageOf (e : Storage) : Even (Near ids) (imageOf e) :=
  even_orFail _ _ _

@[simp] theorem even_checkedRows (format : ImageFormat) (desc : ImageDesc) (origin : Origin)
    (region : Region) : Even (Near ids) (checkedRows format desc origin region) :=
  even_ite (even_pure _) (even_fail _ _)

theorem even_writeBuffer (hm : m.handle.id ∈ ids) (offset : Nat) (data : List UInt8) :
    Even (Near ids) (writeBuffer m offset data) := by
  unfold writeBuffer
  refine even_bind (even_storageOf hm) fun target => ?_
  exact even_bind (even_checkRange _ _ _) fun _ => even_putBytes _ _

theorem even_readBuffer (hm : m.handle.id ∈ ids) (offset length : Nat) :
    Even (Near ids) (readBuffer m offset length) := by
  unfold readBuffer
  refine even_bind (even_storageOf hm) fun source => ?_
  exact even_bind (even_checkRange _ _ _) fun _ => even_pure _

theorem even_copyBuffer (hm : m.handle.id ∈ ids) (hm' : m'.handle.id ∈ ids)
    (srcOffset dstOffset length : Nat) :
    Even (Near ids) (copyBuffer m m' srcOffset dstOffset length) := by
  unfold copyBuffer
  refine even_bind (even_storageOf hm) fun source => even_bind (even_checkRange _ _ _) fun _ => ?_
  refine even_bind (even_storageOf hm') fun target => even_bind (even_checkRange _ _ _) fun _ => ?_
  exact even_putBytes _ _

theorem even_readImage (hm : m.handle.id ∈ ids) (origin : Origin) (region : Region)
    (out : List UInt8) : Even (Near ids) (readImage m origin region out) := by
  unfold readImage
  refine even_bind (even_storageOf hm) fun source => even_bind (even_imageOf _) fun form => ?_
  refine even_bind (even_checkedRows _ _ _ _) fun rows => ?_
  exact even_when (even_fail _ _) (even_pure _)

theorem even_copyImage (hm : m.handle.id ∈ ids) (hm' : m'.handle.id ∈ ids)
    (srcOrigin dstOrigin : Origin) (region : Region) :
    Even (Near ids) (copyImage m m' srcOrigin dstOrigin region) := by
  unfold copyImage
  refine even_bind (even_storageOf hm) fun source => even_bind (even_imageOf _) fun form => ?_
  refine even_bind (even_checkedRows _ _ _ _) fun rows => ?_
  refine even_bind (even_storageOf hm') fun target => even_bind (even_imageOf _) fun form' => ?_
  refine even_when (even_fail _ _) (even_bind (even_checkedRows _ _ _ _) fun rows' => ?_)
  exact even_putBytes _ _

/-! ## Programs and kernels -/

theorem even_createProgram (source : String) : Even (Near ids) (createProgram source) := by
  unfold createProgram
  refine even_when (even_fail _ _) (even_bind (even_allocate _) fun h => ?_)
  exact even_bind (even_modifyPrograms fun _ _ ht => ht.insert _ _) fun _ => even_pure _

theorem even_createProgramBinary (binary : List UInt8) :
    Even (Near ids) (createProgramBinary binary) :=
  even_bind (even_orFail _ _ _) fun _ => even_createProgram _

/-- Looking for a program that both keep. -/
theorem even_programOf (hp : program.id ∈ ids) (call : String) {c : Program → Call α}
    (hc : ∀ p, Even (Near ids) (c p)) :
    Even (Near ids)
      (get >>= fun d => orFail (d.programs.get? program.id) call .invalidProgram >>= c) :=
  even_get_bind (fun d d' h => by rw [h.programs.same _ hp]) fun d =>
    even_bind (even_orFail _ _ _) hc

/-- Looking for a kernel that both keep. -/
theorem even_kernelOf (hk : kernel.id ∈ ids) (call : String) {c : Kernel → Call α}
    (hc : ∀ k, Even (Near ids) (c k)) :
    Even (Near ids)
      (get >>= fun d => orFail (d.kernels.get? kernel.id) call .invalidKernel >>= c) :=
  even_get_bind (fun d d' h => by rw [h.kernels.same _ hk]) fun d =>
    even_bind (even_orFail _ _ _) hc

theorem even_buildProgram (hp : program.id ∈ ids) (options : String) :
    Even (Near ids) (buildProgram program options) := by
  have hset : ∀ f : Program → Program, Even (Near ids) (modify fun d =>
      { d with programs := d.programs.modify program.id f } : Call PUnit) := fun f =>
    even_modifyPrograms fun _ _ ht => ht.modify _ f
  refine even_programOf hp _ fun entry => even_ite (hset _) ?_
  exact even_bind (hset _) fun _ => even_throw _

theorem even_programBinary (hp : program.id ∈ ids) :
    Even (Near ids) (programBinary program) :=
  even_programOf hp _ fun _ => even_when (even_fail _ _) (even_pure _)

theorem even_createKernel (hp : program.id ∈ ids) (name : String) :
    Even (Near ids) (createKernel program name) := by
  refine even_programOf hp _ fun entry => even_when (even_fail _ _) ?_
  refine even_bind (even_orFail _ _ _) fun signature => even_bind (even_allocate _) fun h => ?_
  exact even_bind (even_modifyKernels fun _ _ ht => ht.insert _ _) fun _ => even_pure _

theorem even_cloneKernel (hk : kernel.id ∈ ids) : Even (Near ids) (cloneKernel kernel) := by
  refine even_kernelOf hk _ fun copy => even_bind (even_allocate _) fun h => ?_
  exact even_bind (even_modifyKernels fun _ _ ht => ht.insert _ _) fun _ => even_pure _

theorem even_argumentOf {value : ArgumentValue} (hv : ∀ m, value = .memory m → m.handle.id ∈ ids) :
    Even (Near ids) (argumentOf value) := by
  cases value with
  | bytes value => exact even_pure _
  | memory m =>
    refine even_get_bind (fun d d' h => by rw [h.memories.same _ (hv m rfl)]) fun d => ?_
    exact even_bind (even_orFail _ _ _) fun _ => even_pure _

theorem even_setArgument (hk : kernel.id ∈ ids) (index : Nat) {value : ArgumentValue}
    (hv : ∀ m, value = .memory m → m.handle.id ∈ ids) :
    Even (Near ids) (setArgument kernel index value) := by
  unfold setArgument
  refine even_bind (even_argumentOf hv) fun argument => even_kernelOf hk _ fun entry => ?_
  exact even_when (even_fail _ _) (even_modifyKernels fun _ _ ht => ht.modify _ _)

theorem even_enqueueKernel (hk : kernel.id ∈ ids) (globalSize : List Nat)
    (localSize : Option (List Nat)) :
    Even (Near ids) (enqueueKernel kernel globalSize localSize) := by
  unfold enqueueKernel
  have hrest : Even (Near ids) (do
      let entry ← orFail ((← get).kernels.get? kernel.id) launchCall .invalidKernel
      let arguments ← orFail (entry.slots.mapM id) launchCall .invalidKernelArgs
      modify fun s =>
        { s with launches := s.launches ++ [⟨entry.name, globalSize, localSize, arguments⟩] } :
      Call Unit) := by
    refine even_kernelOf hk _ fun entry => even_bind (even_orFail _ _ _) fun arguments => ?_
    exact even_modify fun _ _ h => { h with launches := congrArg (· ++ _) h.launches }
  split
  · exact even_bind (even_fail _ _) fun _ => hrest
  · exact hrest

end Known

/-! ## Settings -/

theorem even_flush : Even (Near ids) flush :=
  even_modify fun _ _ h => { h with flushes := congrArg (· + 1) h.flushes }

theorem even_finish : Even (Near ids) finish :=
  even_modify fun _ _ h => { h with }

theorem even_selectPlatform (index : Nat) : Even (Near ids) (selectPlatform index) :=
  even_when (even_fail _ _) (even_modify fun _ _ h => { h with selection := rfl })

theorem even_selectDevice (index : Nat) : Even (Near ids) (selectDevice index) :=
  even_when (even_fail _ _) (even_modify fun _ _ h =>
    { h with selection := congrArg (fun s : Selection => { s with device := index }) h.selection })

end Calls

end Simulator

end DriverBench
