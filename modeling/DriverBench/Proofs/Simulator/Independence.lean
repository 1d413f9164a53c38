import DriverBench.Proofs.Simulator.Request
/-!
# What requests leave alone

A request changes or forgets one thing at most: the memory that it writes into, the program that it
builds, the kernel whose argument it sets, or what a dropped handle named. It reads from others, and
what it makes has a new id. So whatever a driver is asked, and whether or not it does it, what it
keeps elsewhere is as it was (`leaves_after`); and what no request of a sequence is for is the same
behind all of them (`kept?_after_all`).
-/

namespace DriverBench.Simulator

open Device

/-- The table and the id of what a request is to change or to forget, if there is such a thing. -/
def Request.subject? : Request → Option (HandleKind × Nat)
  | writeBuffer m _ _ | writeImage m _ _ _ => some (.buffer, m.handle.id)
  | copyBuffer _ dst _ _ _ | copyImage _ dst _ _ _ => some (.buffer, dst.handle.id)
  | buildProgram program _ => some (.program, program.id)
  | setArgument kernel _ _ => some (.kernel, kernel.id)
  | release h => some (h.kind.table, h.id)
  | _ => none

/-- A request is to change or to forget what a handle names. -/
def Request.IsFor (r : Request) (h : Handle) : Prop :=
  r.subject? = some (h.kind.table, h.id)

/-- A request is for one thing at most. -/
theorem Request.IsFor.id_eq {r : Request} {h k : Handle} (hh : r.IsFor h) (hk : r.IsFor k) :
    h.id = k.id :=
  (Prod.mk.inj (Option.some.inj (hh.symm.trans hk))).2

namespace State

/-- Of what was given out nothing is another thing than before, but perhaps the subject. -/
structure Leaves (subject : Option (HandleKind × Nat)) (d d' : State) : Prop where
  lastId_le : d.lastId ≤ d'.lastId
  entry : ∀ kind id, id ≤ d.lastId → subject ≠ some (kind.table, id) →
    d'.lookup kind id = d.lookup kind id

variable {subject : Option (HandleKind × Nat)}

instance : Frame (Leaves subject) where
  refl _ := ⟨Nat.le_refl _, fun _ _ _ _ => rfl⟩
  trans h h' := ⟨Nat.le_trans h.lastId_le h'.lastId_le, fun kind id hid hne =>
    (h'.entry kind id (Nat.le_trans hid h.lastId_le) hne).trans (h.entry kind id hid hne)⟩

theorem SameTables.leaves {d d' : State} (h : d.SameTables d') : d.Leaves subject d' :=
  ⟨Nat.le_of_eq h.lastId.symm, fun _ _ _ _ => by rw [h.lookup_eq]⟩

theorem leaves_add (d : State) (x : Entry) : d.Leaves subject (d.add x) :=
  ⟨Nat.le_succ _, fun kind id hid _ => by rw [lookup_add, if_neg (by omega)]⟩

theorem leaves_withBytes (d : State) (id : Nat) (bytes : List UInt8) :
    d.Leaves (some (.buffer, id)) (d.withBytes id bytes) := by
  refine ⟨Nat.le_refl _, fun kind k _ hne => ?_⟩
  cases kind with
  | program | kernel => rfl
  | buffer | image =>
    have hk : k ≠ id := fun heq => hne (by rw [heq]; rfl)
    rw [lookup, lookup, get?_withBytes, if_neg hk]

theorem leaves_program (d : State) (id : Nat) (f : Program → Program) :
    d.Leaves (some (.program, id)) { d with programs := d.programs.modify id f } := by
  refine ⟨Nat.le_refl _, fun kind k _ hne => ?_⟩
  cases kind with
  | buffer | image | kernel => rfl
  | program =>
    have hk : k ≠ id := fun heq => hne (by rw [heq]; rfl)
    rw [lookup, lookup, Table.get?_modify, if_neg hk]

theorem leaves_kernel (d : State) (id : Nat) (f : Kernel → Kernel) :
    d.Leaves (some (.kernel, id)) { d with kernels := d.kernels.modify id f } := by
  refine ⟨Nat.le_refl _, fun kind k _ hne => ?_⟩
  cases kind with
  | buffer | image | program => rfl
  | kernel =>
    have hk : k ≠ id := fun heq => hne (by rw [heq]; rfl)
    rw [lookup, lookup, Table.get?_modify, if_neg hk]

theorem leaves_release (d : State) (h : Handle) :
    d.Leaves (some (h.kind.table, h.id)) (d.release h) := by
  refine ⟨Nat.le_of_eq (d.lastId_release h).symm, fun kind k _ hne => ?_⟩
  rw [lookup_release, if_neg]
  rintro ⟨rfl, htable⟩
  exact hne (by rw [htable])

end State

/-- A call that creates something leaves everything alone. -/
theorem Creates.within_leaves {α : Type} {c : Call α} {handle : α → Handle}
    {subject : Option (HandleKind × Nat)} (hc : Creates c handle) :
    Action.Within (State.Leaves subject) (do let _ ← c : Call Unit) := by
  refine Action.within_bind (hc.within fun d a d' h => ?_) fun _ => Action.within_pure _
  obtain ⟨x, rfl, -⟩ := h
  exact d.leaves_add x

/-- **A request leaves alone** what it is not for, whether or not it goes through. -/
theorem within_leaves_perform (r : Request) :
    Action.Within (State.Leaves r.subject?) r.perform := by
  cases r with
  | selectPlatform index => exact (tries_selectPlatform index).within fun _ _ _ h => h.leaves
  | selectDevice index => exact (tries_selectDevice index).within fun _ _ _ h => h.leaves
  | setBlocking blocking => exact fun d => State.SameTables.leaves ⟨rfl, rfl, rfl, rfl, rfl⟩
  | createBuffer size => exact (creates_createBuffer size).within_leaves
  | createImage format desc data => exact (creates_createImage format desc data).within_leaves
  | createProgram source => exact (creates_createProgram source).within_leaves
  | createProgramBinary binary => exact (creates_createProgramBinary binary).within_leaves
  | createKernel program name => exact (creates_createKernel program name).within_leaves
  | cloneKernel kernel => exact (creates_cloneKernel kernel).within_leaves
  | readBuffer m offset length =>
    exact Action.within_bind (within_readBuffer m offset length) fun _ => Action.within_pure _
  | readImage m origin region out =>
    exact Action.within_bind (within_readImage m origin region out) fun _ => Action.within_pure _
  | programBinary program =>
    exact Action.within_bind (within_programBinary program) fun _ => Action.within_pure _
  | writeBuffer m offset data =>
    refine (tries_writeBuffer m offset data).within fun d _ d' h => ?_
    obtain ⟨bytes, -, -, rfl⟩ := h
    exact d.leaves_withBytes _ _
  | copyBuffer src dst srcOffset dstOffset length =>
    refine (tries_copyBuffer src dst srcOffset dstOffset length).within fun d _ d' h => ?_
    obtain ⟨source, target, -, -, -, -, rfl⟩ := h
    exact d.leaves_withBytes _ _
  | writeImage m origin region data =>
    refine (tries_writeImage m origin region data).within fun d _ d' h => ?_
    obtain ⟨bytes, format, desc, -, -, -, rfl⟩ := h
    exact d.leaves_withBytes _ _
  | copyImage src dst srcOrigin dstOrigin region =>
    refine (tries_copyImage src dst srcOrigin dstOrigin region).within fun d _ d' h => ?_
    obtain ⟨source, target, format, srcDesc, dstDesc, -, -, -, -, rfl⟩ := h
    exact d.leaves_withBytes _ _
  | buildProgram program options =>
    intro d
    change d.Leaves _ ((buildProgram program options).run.run d).2
    cases hp : d.programs.get? program.id with
    | none =>
      rw [run_buildProgram_of_none hp]
      exact Frame.refl d
    | some p =>
      rw [run_buildProgram hp]
      split <;> exact d.leaves_program _ _
  | setArgument kernel index value =>
    refine (tries_setArgument kernel index value).within fun d _ d' h => ?_
    obtain ⟨-, -, rfl⟩ := h
    exact d.leaves_kernel _ _
  | enqueueKernel kernel globalSize localSize =>
    refine (tries_enqueueKernel kernel globalSize localSize).within fun d _ d' h => ?_
    obtain ⟨k, arguments, -, -, rfl⟩ := h
    exact State.SameTables.leaves ⟨rfl, rfl, rfl, rfl, rfl⟩
  | flush => exact tries_flush.within fun _ _ _ h => h.leaves
  | finish => exact tries_finish.within fun _ _ _ h => h.leaves
  | release h => exact fun d => d.leaves_release h

namespace State

theorem leaves_after (d : State) (r : Request) : d.Leaves r.subject? (d.after r) :=
  within_leaves_perform r d

/-- **What no request is for** is the same behind all of them. -/
theorem kept?_after_all {d : State} {h : Handle} (hid : h.id ≤ d.lastId) {rs : List Request}
    (hrs : ∀ r ∈ rs, ¬ r.IsFor h) : (rs.foldl after d).kept? h = d.kept? h := by
  induction rs generalizing d with
  | nil => rfl
  | cons r rest ih =>
    obtain ⟨hr, hrest⟩ := List.forall_mem_cons.1 hrs
    have hleaves := d.leaves_after r
    have hentry := hleaves.entry h.kind h.id hid hr
    rw [List.foldl_cons, ih (Nat.le_trans hid hleaves.lastId_le) hrest, kept?, kept?, hentry]

end State

end DriverBench.Simulator
