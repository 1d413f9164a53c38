import DriverBench.Proofs.Simulator.Bytes
import DriverBench.Proofs.Simulator.Calls
/-!
# What a driver can be asked, and the drivers that lead from there

A driver is asked for something by a call, with any arguments and any handles, or by a handle that
is dropped. All that comes of it is one of few changes (`Change`), and what holds of every driver
that requests lead to is read off them: no id is in use that was not given out, and an image has
just the bytes of its extent (`Sound`).
-/

namespace DriverBench.Simulator

open Device

/-- What a driver can be asked: its calls with their arguments, and to forget what a dropped handle
named. -/
inductive Request where
  | selectPlatform (index : Nat)
  | selectDevice (index : Nat)
  | setBlocking (blocking : Bool)
  | createBuffer (size : Nat)
  | writeBuffer (m : Memory) (offset : Nat) (data : List UInt8)
  | readBuffer (m : Memory) (offset length : Nat)
  | copyBuffer (src dst : Memory) (srcOffset dstOffset length : Nat)
  | createImage (format : ImageFormat) (desc : ImageDesc) (data : Option (List UInt8))
  | writeImage (m : Memory) (origin : Origin) (region : Region) (data : List UInt8)
  | readImage (m : Memory) (origin : Origin) (region : Region) (out : List UInt8)
  | copyImage (src dst : Memory) (srcOrigin dstOrigin : Origin) (region : Region)
  | createProgram (source : String)
  | createProgramBinary (binary : List UInt8)
  | buildProgram (program : Handle) (options : String)
  | programBinary (program : Handle)
  | createKernel (program : Handle) (name : String)
  | cloneKernel (kernel : Handle)
  | setArgument (kernel : Handle) (index : Nat) (value : ArgumentValue)
  | enqueueKernel (kernel : Handle) (globalSize : List Nat) (localSize : Option (List Nat))
  | flush
  | finish
  | release (h : Handle)

namespace Request

/-- A request is done; what it answers is left out. -/
def perform : Request → Call Unit
  | selectPlatform index => Simulator.selectPlatform index
  | selectDevice index => Simulator.selectDevice index
  | setBlocking blocking => Simulator.setBlocking blocking
  | createBuffer size => do let _ ← Simulator.createBuffer size
  | writeBuffer m offset data => Simulator.writeBuffer m offset data
  | readBuffer m offset length => do let _ ← Simulator.readBuffer m offset length
  | copyBuffer src dst srcOffset dstOffset length =>
    Simulator.copyBuffer src dst srcOffset dstOffset length
  | createImage format desc data => do let _ ← Simulator.createImage format desc data
  | writeImage m origin region data => Simulator.writeImage m origin region data
  | readImage m origin region out => do let _ ← Simulator.readImage m origin region out
  | copyImage src dst srcOrigin dstOrigin region =>
    Simulator.copyImage src dst srcOrigin dstOrigin region
  | createProgram source => do let _ ← Simulator.createProgram source
  | createProgramBinary binary => do let _ ← Simulator.createProgramBinary binary
  | buildProgram program options => Simulator.buildProgram program options
  | programBinary program => do let _ ← Simulator.programBinary program
  | createKernel program name => do let _ ← Simulator.createKernel program name
  | cloneKernel kernel => do let _ ← Simulator.cloneKernel kernel
  | setArgument kernel index value => Simulator.setArgument kernel index value
  | enqueueKernel kernel globalSize localSize => Simulator.enqueueKernel kernel globalSize localSize
  | flush => Simulator.flush
  | finish => Simulator.finish
  | release h => modify fun d => d.release h

/-- The id of the memory that a request is to write into or to forget. -/
def target? : Request → Option Nat
  | writeBuffer m _ _ | writeImage m _ _ _ => some m.handle.id
  | copyBuffer _ dst _ _ _ | copyImage _ dst _ _ _ => some dst.handle.id
  | release h => if h.kind.table = .buffer then some h.id else none
  | _ => none

end Request

namespace State

/-- The driver behind a request, whether or not it failed. -/
def after (d : State) (r : Request) : State :=
  (r.perform.run.run d).2

/-- **The drivers that requests lead to**, from one that was just started. -/
inductive Reached : State → Prop
  | start (serial : Nat) : Reached { serial }
  | after {d : State} (r : Request) : Reached d → Reached (d.after r)

end State

/-- An image has the bytes of its extent. -/
def Storage.Whole (e : Storage) : Prop :=
  ∀ format desc, e.image = some (format, desc) → e.bytes.length = desc.exactSize format

/-- A program has a source that is not blank. Once it is built, the source asks for no failure and
its kernels are those that the source declares. -/
structure Program.Sound (p : Program) : Prop where
  text : ¬ p.source.toList.all Text.isWhiteSpace
  noErrors : p.built = true → errorLines p.source = []
  declared : p.built = true → p.signatures = declarations p.source

/-- A program that is not built is in order if it has a source. -/
theorem Program.Sound.of_unbuilt {p : Program} (htext : ¬ p.source.toList.all Text.isWhiteSpace)
    (hbuilt : p.built = false) : p.Sound :=
  ⟨htext, fun h => absurd (hbuilt.symm.trans h) Bool.false_ne_true,
    fun h => absurd (hbuilt.symm.trans h) Bool.false_ne_true⟩

/-- What is kept is in order: memory is whole and not too large to be had, and programs are what
their sources make of them. -/
def Entry.Sound : Entry → Prop
  | .memory e => e.Whole ∧ e.bytes.length < allocationLimit
  | .program p => p.Sound
  | .kernel _ => True

/-- No id is in use that was not given out or is in use twice, and all that is kept is in order. -/
structure State.Sound (d : State) : Prop where
  fresh : d.Fresh
  memories_distinct : d.memories.Distinct
  programs_distinct : d.programs.Distinct
  entry : ∀ kind id x, d.lookup kind id = some x → x.Sound

namespace State.Sound

variable {d : State} (hd : d.Sound)
include hd

theorem memory (id : Nat) (e : Storage) (he : d.memories.get? id = some e) :
    e.Whole ∧ e.bytes.length < allocationLimit :=
  hd.entry .buffer id (.memory e) (by rw [lookup, he]; rfl)

/-- Images have the bytes of their extent. -/
theorem whole (id : Nat) (e : Storage) (he : d.memories.get? id = some e) : e.Whole :=
  (hd.memory id e he).1

/-- Memory is below the limit of what can be had. -/
theorem bounded (id : Nat) (e : Storage) (he : d.memories.get? id = some e) :
    e.bytes.length < allocationLimit :=
  (hd.memory id e he).2

theorem program (id : Nat) (p : Program) (hp : d.programs.get? id = some p) : p.Sound :=
  hd.entry .program id (.program p) (by rw [lookup, hp]; rfl)

end State.Sound

/-- **What comes of a request** whose target is the memory of an id, if it has one. -/
inductive Change (d : State) (target : Option Nat) : State → Prop
  /-- Only settings and the record of what was done are others. -/
  | settle {d' : State} : d.SameTables d' → Change d target d'
  /-- Something is created. -/
  | add (x : Entry) : x.Sound → Change d target (d.add x)
  /-- Bytes of the target are replaced. -/
  | write {id : Nat} {e : Storage} {bytes : List UInt8} : target = some id →
      d.memories.get? id = some e → bytes.length = e.bytes.length →
      Change d target (d.withBytes id bytes)
  /-- A program is built. -/
  | build {id : Nat} {p : Program} : d.programs.get? id = some p → errorLines p.source = [] →
      Change d target { d with programs := d.programs.modify id fun p =>
        { p with built := true, signatures := declarations p.source } }
  /-- A program cannot be built. -/
  | refuse {id : Nat} {p : Program} : d.programs.get? id = some p → errorLines p.source ≠ [] →
      Change d target { d with programs := d.programs.modify id fun p => { p with built := false } }
  /-- An argument of a kernel is set. -/
  | argument {id index : Nat} {a : Argument} {k : Kernel} : d.kernels.get? id = some k →
      index < k.slots.length →
      Change d target { d with kernels := d.kernels.modify id fun k =>
        { k with slots := k.slots.set index (some a) } }
  /-- What a handle named is forgotten. -/
  | release (h : Handle) : target = (if h.kind.table = .buffer then some h.id else none) →
      Change d target (d.release h)

/-! ## Every request is one of the changes -/

section Change

variable {α : Type} {target : Option Nat} {Q : State → α → State → Prop} {c : Call α}

/-- A call that changes nothing when it fails comes to what it comes to when it goes through. -/
theorem Tries.change {d : State} (hc : Tries c Q) (hQ : ∀ a d', Q d a d' → Change d target d') :
    Change d target (c.run.run d).2 := by
  have h := hc d d rfl
  rcases hr : c.run.run d with ⟨e | a, d'⟩
  · rw [hr] at h
    obtain rfl : d' = d := h
    exact .settle ⟨rfl, rfl, rfl, rfl, rfl⟩
  · rw [hr] at h
    exact hQ a d' h

/-- What a call answers does not matter to what it comes to. -/
theorem change_ignore {d : State} (h : Change d target (c.run.run d).2) :
    Change d target ((do let _ ← c : Call Unit).run.run d).2 := by
  rw [Action.run_bind]
  rcases hr : c.run.run d with ⟨e | a, d'⟩ <;>
  · rw [hr] at h
    exact h

/-- A call that only looks comes to nothing. -/
theorem change_of_looking (hc : Action.Within (fun d d' => d' = d) c) (d : State) :
    Change d target (c.run.run d).2 := by
  rw [hc d]
  exact .settle ⟨rfl, rfl, rfl, rfl, rfl⟩

end Change

theorem change_buildProgram (program : Handle) (options : String) (d : State) :
    Change d none ((buildProgram program options).run.run d).2 := by
  cases hp : d.programs.get? program.id with
  | none =>
    rw [run_buildProgram_of_none hp]
    exact .settle ⟨rfl, rfl, rfl, rfl, rfl⟩
  | some p =>
    rw [run_buildProgram hp]
    by_cases he : errorLines p.source = []
    · rw [if_pos he]
      exact .build hp he
    · rw [if_neg he]
      exact .refuse hp he

/-- **What a driver can be asked comes to one of the changes.** -/
theorem change_after {d : State} (hd : d.Sound) (r : Request) : Change d r.target? (d.after r) := by
  unfold State.after
  cases r with
  | selectPlatform index => exact (tries_selectPlatform index).change (fun _ _ h => .settle h)
  | selectDevice index => exact (tries_selectDevice index).change (fun _ _ h => .settle h)
  | setBlocking blocking => exact .settle ⟨rfl, rfl, rfl, rfl, rfl⟩
  | createBuffer size =>
    refine change_ignore ((tries_createBuffer size).change (fun _ d' h => ?_))
    obtain ⟨hlt, rfl, -⟩ := h
    refine .add _ ⟨?_, by rwa [List.length_replicate]⟩
    rintro format desc ⟨⟩
  | createImage format desc data =>
    refine change_ignore ((tries_createImage format desc data).change (fun _ d' h => ?_))
    obtain ⟨bytes, hlength, hlt, rfl, -⟩ := h
    refine .add _ ⟨?_, hlength ▸ hlt⟩
    rintro _ _ ⟨⟩
    exact hlength
  | createProgram source =>
    refine change_ignore ((tries_createProgram source).change (fun _ d' h => ?_))
    obtain ⟨htext, rfl, -⟩ := h
    exact .add _ (.of_unbuilt htext rfl)
  | createProgramBinary binary =>
    refine change_ignore ((tries_createProgramBinary binary).change (fun _ d' h => ?_))
    obtain ⟨body, -, htext, rfl, -⟩ := h
    exact .add _ (.of_unbuilt htext rfl)
  | createKernel program name =>
    refine change_ignore ((tries_createKernel program name).change (fun _ d' h => ?_))
    obtain ⟨entry, signature, -, -, -, rfl, -⟩ := h
    exact .add _ trivial
  | cloneKernel kernel =>
    refine change_ignore ((tries_cloneKernel kernel).change (fun _ d' h => ?_))
    obtain ⟨copy, -, rfl, -⟩ := h
    exact .add _ trivial
  | readBuffer m offset length =>
    exact change_ignore (change_of_looking (within_readBuffer m offset length) d)
  | readImage m origin region out =>
    exact change_ignore (change_of_looking (within_readImage m origin region out) d)
  | programBinary program =>
    exact change_ignore (change_of_looking (within_programBinary program) d)
  | writeBuffer m offset data =>
    refine (tries_writeBuffer m offset data).change (fun _ d' h => ?_)
    obtain ⟨bytes, he, hle, rfl⟩ := h
    exact .write rfl he (length_overwrite hle)
  | copyBuffer src dst srcOffset dstOffset length =>
    refine (tries_copyBuffer src dst srcOffset dstOffset length).change (fun _ d' h => ?_)
    obtain ⟨source, target, -, he, hsrc, hdst, rfl⟩ := h
    exact .write rfl he (length_overwrite (by rwa [length_slice hsrc]))
  | writeImage m origin region data =>
    refine (tries_writeImage m origin region data).change (fun _ d' h => ?_)
    obtain ⟨bytes, format, desc, he, hfits, hlength, rfl⟩ := h
    -- The rows lie in the bytes because the image is whole, so the write does not lengthen it.
    have hwhole : bytes.length = desc.exactSize format := hd.whole _ _ he _ _ rfl
    exact .write rfl he (length_scatter (hwhole.symm ▸ stretches_rowsOf hfits) fun c hc =>
      Nat.le_of_eq (length_of_mem_chunksOf hlength c hc))
  | copyImage src dst srcOrigin dstOrigin region =>
    refine (tries_copyImage src dst srcOrigin dstOrigin region).change (fun _ d' h => ?_)
    obtain ⟨source, target, format, srcDesc, dstDesc, -, he, -, hfitsDst, rfl⟩ := h
    have hwhole : target.length = dstDesc.exactSize format := hd.whole _ _ he _ _ rfl
    exact .write rfl he (length_scatter (hwhole.symm ▸ stretches_rowsOf hfitsDst)
      length_le_of_mem_gather)
  | buildProgram program options => exact change_buildProgram program options d
  | setArgument kernel index value =>
    refine (tries_setArgument kernel index value).change (fun _ d' h => ?_)
    obtain ⟨-, ⟨k, hk, hindex⟩, rfl⟩ := h
    exact .argument hk hindex
  | enqueueKernel kernel globalSize localSize =>
    refine (tries_enqueueKernel kernel globalSize localSize).change (fun _ d' h => ?_)
    obtain ⟨k, arguments, -, -, rfl⟩ := h
    exact .settle ⟨rfl, rfl, rfl, rfl, rfl⟩
  | flush => exact tries_flush.change (fun _ _ h => .settle h)
  | finish => exact tries_finish.change (fun _ _ h => .settle h)
  | release h => exact .release h rfl

/-! ## What holds of every driver that requests lead to -/

namespace State

theorem get?_memories_add (d : State) (x : Entry) (id : Nat) :
    (d.add x).memories.get? id = d.memories.get? id ∨
      id = d.lastId + 1 ∧ ∃ e, x = .memory e ∧ (d.add x).memories.get? id = some e := by
  cases x with
  | memory e =>
    have hget : (d.add (.memory e)).memories.get? id =
        if id = d.lastId + 1 then some e else d.memories.get? id := Table.get?_insert _ _ _ _
    rw [hget]
    by_cases hid : id = d.lastId + 1
    · rw [if_pos hid]
      exact .inr ⟨hid, e, rfl, rfl⟩
    · rw [if_neg hid]
      exact .inl rfl
  | program p => exact .inl rfl
  | kernel k => exact .inl rfl

theorem get?_memories_release (d : State) (h : Handle) (id : Nat) :
    (d.release h).memories.get? id =
      if h.kind.table = .buffer ∧ id = h.id then none else d.memories.get? id := by
  obtain ⟨k, kind, issuer⟩ := h
  cases kind <;> simp [release, HandleKind.table, Table.get?_erase]

end State

/-- **Memory that a request is not for** stays as it is. -/
theorem Change.memory {d d' : State} {target : Option Nat} (h : Change d target d') (hd : d.Fresh)
    {id : Nat} {e : Storage} (he : d.memories.get? id = some e) (hid : target ≠ some id) :
    d'.memories.get? id = some e := by
  cases h with
  | settle h => rwa [h.memories]
  | add x hx =>
    rcases d.get?_memories_add x id with heq | ⟨rfl, -⟩
    · rwa [heq]
    · exact absurd (hd.le_of_memory he) (by omega)
  | write htarget _ _ =>
    rw [State.get?_withBytes, if_neg, he]
    rintro rfl
    exact hid htarget
  | release h htarget =>
    rw [State.get?_memories_release, if_neg, he]
    rintro ⟨htable, rfl⟩
    rw [if_pos htable] at htarget
    exact hid htarget
  | build | refuse | argument => exact he

theorem Change.sound {d d' : State} {target : Option Nat} (h : Change d target d') (hd : d.Sound) :
    d'.Sound := by
  cases h with
  | settle h =>
    exact ⟨h.sameLive.fresh hd.fresh, h.memories ▸ hd.memories_distinct,
      h.programs ▸ hd.programs_distinct, fun kind id x hx => hd.entry kind id x (h.lookup_eq ▸ hx)⟩
  | add x hx =>
    refine ⟨hd.fresh.add x, ?_, ?_, fun kind id y hy => ?_⟩
    · cases x with
      | memory e => exact Table.distinct_insert hd.memories_distinct _ _
      | program | kernel => exact hd.memories_distinct
    · cases x with
      | program p => exact Table.distinct_insert hd.programs_distinct _ _
      | memory | kernel => exact hd.programs_distinct
    · rw [State.lookup_add] at hy
      split at hy
      · obtain rfl := Option.some.inj hy
        exact hx
      · exact hd.entry kind id y hy
  | @write id e bytes _ he hlength =>
    refine ⟨(d.altersAt_withBytes id bytes).sameLive.fresh hd.fresh,
      Table.distinct_modify hd.memories_distinct _ _, hd.programs_distinct, fun kind k y hy => ?_⟩
    rcases State.lookup_memories hy with hold | ⟨f', hf', rfl⟩
    · exact hd.entry kind k y hold
    · obtain ⟨f, hf, rfl⟩ := Table.exists_of_get?_modify hf'
      split
      · next hk =>
        obtain rfl : f = e := Option.some.inj ((hk ▸ hf).symm.trans he)
        exact ⟨fun format desc hform => hlength.trans (hd.whole k f hf format desc hform),
          hlength.symm ▸ hd.bounded k f hf⟩
      · exact hd.memory k f hf
  | @build id p hp hnone =>
    refine ⟨(d.altersAt_program _ _).sameLive.fresh hd.fresh, hd.memories_distinct,
      Table.distinct_modify hd.programs_distinct _ _, fun kind k y hy => ?_⟩
    rcases State.lookup_programs hy with hold | ⟨q', hq', rfl⟩
    · exact hd.entry kind k y hold
    · obtain ⟨q, hq, rfl⟩ := Table.exists_of_get?_modify hq'
      split
      · next hk =>
        obtain rfl : q = p := Option.some.inj ((hk ▸ hq).symm.trans hp)
        exact ⟨(hd.program k q hq).text, fun _ => hnone, fun _ => rfl⟩
      · exact hd.program k q hq
  | refuse =>
    refine ⟨(d.altersAt_program _ _).sameLive.fresh hd.fresh, hd.memories_distinct,
      Table.distinct_modify hd.programs_distinct _ _, fun kind k y hy => ?_⟩
    rcases State.lookup_programs hy with hold | ⟨q', hq', rfl⟩
    · exact hd.entry kind k y hold
    · obtain ⟨q, hq, rfl⟩ := Table.exists_of_get?_modify hq'
      split
      · exact .of_unbuilt (hd.program k q hq).text rfl
      · exact hd.program k q hq
  | argument =>
    refine ⟨(d.alike_slots _ _ _).sameLive.fresh hd.fresh, hd.memories_distinct,
      hd.programs_distinct, fun kind k y hy => ?_⟩
    rcases State.lookup_kernels hy with hold | ⟨q, -, rfl⟩
    · exact hd.entry kind k y hold
    · trivial
  | release h _ =>
    refine ⟨hd.fresh.release h, ?_, ?_, fun kind id x hx => ?_⟩
    · unfold State.release
      split
      · exact Table.distinct_erase hd.memories_distinct _
      · exact Table.distinct_erase hd.memories_distinct _
      · exact hd.memories_distinct
      · exact hd.memories_distinct
    · unfold State.release
      split
      · exact hd.programs_distinct
      · exact hd.programs_distinct
      · exact Table.distinct_erase hd.programs_distinct _
      · exact hd.programs_distinct
    · rw [State.lookup_release] at hx
      split at hx
      · cases hx
      · exact hd.entry kind id x hx

theorem State.Reached.sound {d : State} (h : d.Reached) : d.Sound := by
  induction h with
  | start serial =>
    have hempty : ∀ kind id, State.lookup { serial } kind id = none := by
      intro kind id
      cases kind <;> rfl
    refine ⟨fun k hk => ?_, List.nodup_nil, List.nodup_nil, fun kind id x hx => ?_⟩
    · rw [State.kept?, hempty] at hk
      cases hk
    · rw [hempty] at hx
      cases hx
  | after r _ ih => exact (change_after ih r).sound ih

end DriverBench.Simulator
