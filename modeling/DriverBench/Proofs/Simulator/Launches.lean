import DriverBench.Proofs.Simulator.Binary
/-!
# The launches that a driver records

A launch is recorded with what the slots of its kernel hold at that moment, and a slot may have been
set long before, through another handle, or on the kernel that this one is a clone of. What a slot
should hold is therefore read off the history of the driver, without a look at the slots
(`History.lastSet`), and so is the program that a kernel was made for (`History.origin`).

What one request does to kernels, to what is built and to launches is said once (`Effect`). So the
kernels of a driver hold what its history says (`Explained`), and each request keeps it so.
`History.launch_wellFormed` reads off what that means for the launches.
-/

namespace DriverBench.Simulator

open Device

/-! ## Work sizes -/

/-- The work sizes of a launch that can be done: one to three dimensions, none of them zero, and
local sizes, if there are any, that are as many and divide the global ones. -/
structure SizesFit (globalSize : List Nat) (localSize : Option (List Nat)) : Prop where
  dimensions : 1 ≤ globalSize.length ∧ globalSize.length ≤ 3
  positive : ∀ g ∈ globalSize, g ≠ 0
  length : ∀ sizes ∈ localSize, sizes.length = globalSize.length
  divides : ∀ sizes ∈ localSize, ∀ (i l g : Nat), sizes[i]? = some l → globalSize[i]? = some g →
    l ≠ 0 ∧ l ∣ g

/-- No pair of two lists is a bad one just if no two elements in one place are. -/
theorem any_zip_eq_false_iff {α β : Type} {p : α × β → Bool} {as : List α} {bs : List β} :
    (as.zip bs).any p = false ↔
      ∀ (i : Nat) (a : α) (b : β), as[i]? = some a → bs[i]? = some b → p (a, b) = false := by
  rw [List.any_eq_false]
  constructor
  · intro h i a b ha hb
    have hi : (as.zip bs)[i]? = some (a, b) := List.getElem?_zip_eq_some.2 ⟨ha, hb⟩
    simpa using h _ (List.mem_of_getElem? hi)
  · rintro h ⟨a, b⟩ hab
    obtain ⟨i, hi⟩ := List.mem_iff_getElem?.1 hab
    obtain ⟨ha, hb⟩ := List.getElem?_zip_eq_some.1 hi
    simpa using h i a b ha hb

/-- **Sizes are refused** just if they do not fit. -/
theorem workSizeFault?_eq_none_iff {globalSize : List Nat} {localSize : Option (List Nat)} :
    workSizeFault? globalSize localSize = none ↔ SizesFit globalSize localSize := by
  have hdimensions : (globalSize.isEmpty || decide (3 < globalSize.length)) = false ↔
      1 ≤ globalSize.length ∧ globalSize.length ≤ 3 := by
    cases globalSize <;> simp
  have hpositive : globalSize.contains 0 = false ↔ ∀ g ∈ globalSize, g ≠ 0 := by
    rw [← Bool.not_eq_true, List.contains_iff_mem]
    exact ⟨fun h g hg h0 => h (h0 ▸ hg), fun h h0 => h 0 h0 rfl⟩
  have hpairs : ∀ sizes : List Nat,
      ((sizes.zip globalSize).any fun p => p.1 == 0 || p.2 % p.1 != 0) = false ↔
        ∀ (i l g : Nat), sizes[i]? = some l → globalSize[i]? = some g → l ≠ 0 ∧ l ∣ g := by
    intro sizes
    rw [any_zip_eq_false_iff]
    simp [Nat.dvd_iff_mod_eq_zero]
  unfold workSizeFault?
  -- The checks in their order; those of the local sizes come last.
  constructor
  · intro h
    split at h
    · cases h
    next hd =>
    split at h
    · cases h
    next hp =>
    have hlocal : ∀ sizes ∈ localSize, sizes.length = globalSize.length ∧
        ∀ (i l g : Nat), sizes[i]? = some l → globalSize[i]? = some g → l ≠ 0 ∧ l ∣ g := by
      rintro sizes rfl
      dsimp only at h
      split at h
      · cases h
      next hlength =>
      split at h
      · cases h
      next hany =>
      exact ⟨Decidable.of_not_not hlength, (hpairs sizes).1 (by simpa using hany)⟩
    exact ⟨hdimensions.1 (by simpa using hd), hpositive.1 (by simpa using hp),
      fun sizes hs => (hlocal sizes hs).1, fun sizes hs => (hlocal sizes hs).2⟩
  · intro h
    rw [hdimensions.2 h.dimensions, if_neg Bool.false_ne_true, hpositive.2 h.positive,
      if_neg Bool.false_ne_true]
    cases localSize with
    | none => rfl
    | some sizes =>
      dsimp only
      rw [if_neg (not_not_intro (h.length sizes rfl)), (hpairs sizes).2 (h.divides sizes rfl),
        if_neg Bool.false_ne_true]

/-! ## Histories -/

/-- Whether a driver does what it is asked. -/
def State.accepts (d : State) (r : Request) : Bool :=
  match (r.perform.run.run d).1 with
  | .ok _ => true
  | .error _ => false

/-- What is set for the slots of kernels behind a request that was done, where `before` was set in
front of it and `next` is the next id: a value is set in one slot, and a clone starts with the
values of the kernel that it is made from. -/
def Request.sets (next : Nat) (before : Nat → Nat → Option Argument) :
    Request → Nat → Nat → Option Argument
  | setArgument kernel i value, id, index =>
    if kernel.id = id ∧ i = index then some value.argument else before id index
  | cloneKernel kernel, id, index => before (if id = next then kernel.id else id) index
  | _, id, index => before id index

/-- What a request makes the kernel under the next id for: a program and a name in it, which are
those of the other kernel for a clone. -/
def Request.makes? (before : Nat → Option (Nat × String)) : Request → Option (Nat × String)
  | createKernel program name => some (program.id, name)
  | cloneKernel kernel => before kernel.id
  | _ => none

/-- What a driver was asked since it was started, latest first. -/
abbrev History := List Request

namespace History

variable (serial : Nat)

/-- The driver that a history leads to. -/
def state : History → State
  | [] => { serial }
  | r :: past => (state past).after r

/-- The value that was last set for a slot of the kernel with an id: on this kernel, or else before
it was cloned on the kernel that it is a clone of. -/
def lastSet : History → Nat → Nat → Option Argument
  | [], _, _ => none
  | r :: past, id, index =>
    if (state serial past).accepts r then
      r.sets ((state serial past).lastId + 1) (lastSet past) id index
    else lastSet past id index

/-- The id of the program and the name that the kernel with an id was made for, or the kernel that
it is a clone of. -/
def origin : History → Nat → Option (Nat × String)
  | [], _ => none
  | r :: past, id =>
    if (state serial past).accepts r ∧ id = (state serial past).lastId + 1 then
      r.makes? (origin past)
    else origin past id

/-- A request is one of a history and was done; what was asked before it is `earlier`. -/
structure Did (past : History) (r : Request) (earlier : History) : Prop where
  suffix : r :: earlier <:+ past
  accepted : (state serial earlier).accepts r = true

/-- A program was built from a source. -/
def BuiltFrom (past : History) (id : Nat) (source : String) : Prop :=
  ∃ program options earlier p, Did serial past (.buildProgram program options) earlier ∧
    program.id = id ∧ (state serial earlier).programs.get? id = some p ∧ p.source = source

/-- The kernel with an id was made for a program that was built from a source, and so many
parameters are those of the first declaration of its name there. -/
def Declares (past : History) (id : Nat) (name : String) (parameters : Nat) : Prop :=
  ∃ program source signature, origin serial past id = some (program, name) ∧
    BuiltFrom serial past program source ∧
    (declarations source).find? (·.name == name) = some signature ∧
    signature.parameters = parameters

variable {serial : Nat}

theorem reached_state (h : History) : (state serial h).Reached := by
  induction h with
  | nil => exact .start serial
  | cons r past ih => exact ih.after r

theorem Did.cons {past earlier : History} {r : Request} (h : Did serial past r earlier)
    (r' : Request) : Did serial (r' :: past) r earlier :=
  ⟨h.suffix.trans (List.suffix_cons r' past), h.accepted⟩

theorem BuiltFrom.cons {past : History} {id : Nat} {source : String}
    (h : BuiltFrom serial past id source) (r : Request) :
    BuiltFrom serial (r :: past) id source := by
  obtain ⟨program, options, earlier, p, hdid, hp⟩ := h
  exact ⟨program, options, earlier, p, hdid.cons r, hp⟩

end History

/-! ## What a request does to kernels, programs and launches -/

/-- All slots are set just to the values that are found in them. -/
theorem slots_eq_of_mapM {slots : List (Option Argument)} {arguments : List Argument}
    (h : slots.mapM id = some arguments) : slots = arguments.map some := by
  induction slots generalizing arguments with
  | nil =>
    obtain rfl := Option.some.inj h
    rfl
  | cons slot rest ih =>
    rw [List.mapM_cons] at h
    obtain ⟨a, ha, h⟩ := Option.bind_eq_some_iff.1 h
    obtain ⟨as, has, h⟩ := Option.bind_eq_some_iff.1 h
    obtain rfl := Option.some.inj h
    rw [List.map_cons, ← ih has, ← ha, id]

/-- A request is done, or the driver stays as it is; what is done is known of each call. -/
theorem Tries.after_cases {c : Call Unit} {Q : State → Unit → State → Prop} (hc : Tries c Q)
    {r : Request} (hr : r.perform = c) (d : State) :
    d.accepts r = true ∧ Q d () (d.after r) ∨ d.accepts r = false ∧ d.after r = d := by
  have h := hc d d rfl
  unfold State.accepts State.after
  rw [hr]
  rcases hrun : c.run.run d with ⟨e | a, d'⟩
  · rw [hrun] at h
    exact .inr ⟨rfl, h⟩
  · rw [hrun] at h
    exact .inl ⟨rfl, h⟩

theorem Tries.of_accepts {c : Call Unit} {Q : State → Unit → State → Prop} (hc : Tries c Q)
    {r : Request} (hr : r.perform = c) {d : State} (ha : d.accepts r = true) :
    Q d () (d.after r) := by
  rcases hc.after_cases hr d with ⟨-, h⟩ | ⟨ha', -⟩
  · exact h
  · exact absurd (ha'.symm.trans ha) Bool.false_ne_true

/-- What is known of a call is known where its answer is left out. -/
theorem Tries.ignore {α : Type} {c : Call α} {Q : State → α → State → Prop} (hc : Tries c Q) :
    Tries (do let _ ← c : Call Unit) fun d _ d' => ∃ a, Q d a d' := fun d =>
  (hc d).bind fun a => Action.Ensures.pure fun _ h => ⟨a, h⟩

/-- Kernels are as they were or gone, no program is built, and no launch is recorded. -/
structure State.Quiet (d d' : State) : Prop where
  kernels : ∀ id k, d'.kernels.get? id = some k → d.kernels.get? id = some k
  programs : ∀ id p', d'.programs.get? id = some p' → p'.built = true →
    ∃ p, d.programs.get? id = some p ∧ p.built = true ∧ p.source = p'.source
  launches : d'.launches = d.launches

namespace State

instance : Frame Quiet where
  refl _ := ⟨fun _ _ h => h, fun _ p hp hb => ⟨p, hp, hb, rfl⟩, rfl⟩
  trans h h' := by
    refine ⟨fun id k hk => h.kernels id k (h'.kernels id k hk), fun id p'' hp'' hb'' => ?_,
      h'.launches.trans h.launches⟩
    obtain ⟨p', hp', hb', hs'⟩ := h'.programs id p'' hp'' hb''
    obtain ⟨p, hp, hb, hs⟩ := h.programs id p' hp' hb'
    exact ⟨p, hp, hb, hs.trans hs'⟩

/-- Neither kernels nor programs nor launches are touched. -/
theorem quiet_of_eq {d d' : State} (hk : d'.kernels = d.kernels) (hp : d'.programs = d.programs)
    (hl : d'.launches = d.launches) : d.Quiet d' :=
  ⟨fun _ _ h => hk ▸ h, fun _ p h hb => ⟨p, hp ▸ h, hb, rfl⟩, hl⟩

theorem quiet_add_program (d : State) (source : String) :
    d.Quiet (d.add (.program { source })) := by
  refine ⟨fun _ _ h => h, fun id p hp hb => ?_, rfl⟩
  rw [get?_add_program] at hp
  split at hp
  · obtain rfl := Option.some.inj hp
    cases hb
  · exact ⟨p, hp, hb, rfl⟩

theorem quiet_release (d : State) (h : Handle) : d.Quiet (d.release h) := by
  unfold release
  split
  · exact quiet_of_eq rfl rfl rfl
  · exact quiet_of_eq rfl rfl rfl
  · refine ⟨fun _ _ h => h, fun id p hp hb => ?_, rfl⟩
    rw [Table.get?_erase] at hp
    split at hp
    · cases hp
    · exact ⟨p, hp, hb, rfl⟩
  · refine ⟨fun id k hk => ?_, fun _ p hp hb => ⟨p, hp, hb, rfl⟩, rfl⟩
    rw [Table.get?_erase] at hk
    split at hk
    · cases hk
    · exact hk

end State

/-- A request that makes, alters or launches a kernel, or that builds a program. -/
def Request.IsLoud : Request → Prop
  | createKernel .. | cloneKernel .. | setArgument .. | enqueueKernel .. | buildProgram .. => True
  | _ => False

/-- **A request about anything else** leaves kernels, launches and what was built alone. -/
theorem quiet_after {d : State} {r : Request} (hr : ¬ r.IsLoud) : d.Quiet (d.after r) := by
  suffices hwithin : Action.Within State.Quiet r.perform from hwithin d
  cases r with
  | createKernel | cloneKernel | setArgument | enqueueKernel | buildProgram =>
    exact absurd trivial hr
  | setBlocking | flush | finish => exact fun d => State.quiet_of_eq rfl rfl rfl
  | selectPlatform | selectDevice =>
    exact Action.within_when (within_fail _ _) fun d => State.quiet_of_eq rfl rfl rfl
  | readBuffer => exact Action.within_bind (within_readBuffer _ _ _) fun _ => Action.within_pure _
  | readImage => exact Action.within_bind (within_readImage _ _ _ _) fun _ => Action.within_pure _
  | programBinary =>
    exact Action.within_bind (within_programBinary _) fun _ => Action.within_pure _
  | createBuffer =>
    refine (tries_createBuffer _).ignore.within fun d _ d' h => ?_
    obtain ⟨-, -, rfl, -⟩ := h
    exact State.quiet_of_eq rfl rfl rfl
  | createImage =>
    refine (tries_createImage _ _ _).ignore.within fun d _ d' h => ?_
    obtain ⟨-, -, -, -, rfl, -⟩ := h
    exact State.quiet_of_eq rfl rfl rfl
  | createProgram =>
    refine (tries_createProgram _).ignore.within fun d _ d' h => ?_
    obtain ⟨-, -, rfl, -⟩ := h
    exact d.quiet_add_program _
  | createProgramBinary =>
    refine (tries_createProgramBinary _).ignore.within fun d _ d' h => ?_
    obtain ⟨-, -, -, -, rfl, -⟩ := h
    exact d.quiet_add_program _
  | writeBuffer =>
    refine (tries_writeBuffer _ _ _).within fun d _ d' h => ?_
    obtain ⟨-, -, -, rfl⟩ := h
    exact State.quiet_of_eq rfl rfl rfl
  | copyBuffer =>
    refine (tries_copyBuffer _ _ _ _ _).within fun d _ d' h => ?_
    obtain ⟨-, -, -, -, -, -, rfl⟩ := h
    exact State.quiet_of_eq rfl rfl rfl
  | writeImage =>
    refine (tries_writeImage _ _ _ _).within fun d _ d' h => ?_
    obtain ⟨-, -, -, -, -, -, rfl⟩ := h
    exact State.quiet_of_eq rfl rfl rfl
  | copyImage =>
    refine (tries_copyImage _ _ _ _ _).within fun d _ d' h => ?_
    obtain ⟨-, -, -, -, -, -, -, -, -, rfl⟩ := h
    exact State.quiet_of_eq rfl rfl rfl
  | release h => exact fun d => d.quiet_release h

/-- **A build** that fails is about nothing that was built, and one that goes through builds one
program. -/
theorem after_buildProgram (d : State) (program : Handle) (options : String) :
    d.Quiet (d.after (.buildProgram program options)) ∨
      d.accepts (.buildProgram program options) = true ∧ ∃ p,
        d.programs.get? program.id = some p ∧
        d.after (.buildProgram program options) = { d with
          programs := d.programs.modify program.id fun p =>
            { p with built := true, signatures := declarations p.source } } := by
  unfold State.after State.accepts
  change d.Quiet ((buildProgram program options).run.run d).2 ∨ _
  change _ ∨ (match ((buildProgram program options).run.run d).1 with
    | .ok _ => true | .error _ => false) = true ∧ ∃ p, d.programs.get? program.id = some p ∧
      ((buildProgram program options).run.run d).2 = _
  cases hp : d.programs.get? program.id with
  | none =>
    rw [run_buildProgram_of_none hp]
    exact .inl (Frame.refl d)
  | some p =>
    rw [run_buildProgram hp]
    by_cases he : errorLines p.source = []
    · rw [if_pos he]
      exact .inr ⟨rfl, p, rfl, rfl⟩
    · rw [if_neg he]
      refine .inl ⟨fun _ _ h => h, fun id q hq hb => ?_, rfl⟩
      obtain ⟨q', hq', rfl⟩ := Table.exists_of_get?_modify hq
      split at hb
      · cases hb
      · next hne => exact ⟨q', hq', hb, by rw [if_neg hne]⟩

/-- **A launch that is recorded** has sizes that fit, and the values that all slots of the kernel
have. -/
theorem tries_enqueueKernel_fits (kernel : Handle) (globalSize : List Nat)
    (localSize : Option (List Nat)) :
    Tries (enqueueKernel kernel globalSize localSize) fun d _ d' =>
      SizesFit globalSize localSize ∧ ∃ k arguments, d.kernels.get? kernel.id = some k ∧
        k.slots = arguments.map some ∧
        d' = { d with launches := d.launches ++ [⟨k.name, globalSize, localSize, arguments⟩] } := by
  intro d d' hd
  have h := tries_enqueueKernel kernel globalSize localSize d d' hd
  rcases hr : (enqueueKernel kernel globalSize localSize).run.run d' with ⟨e | a, d''⟩
  · rw [hr] at h
    exact h
  · rw [hr] at h
    obtain ⟨k, arguments, hk, hslots, hlaunch⟩ := h
    refine ⟨workSizeFault?_eq_none_iff.1 ?_, k, arguments, hk, slots_eq_of_mapM hslots, hlaunch⟩
    cases hf : workSizeFault? globalSize localSize with
    | none => rfl
    | some status =>
      unfold enqueueKernel at hr
      rw [hf] at hr
      cases hr

/-- **What a request does** to kernels, to what is built and to launches. -/
inductive Effect (d : State) : Request → State → Prop
  /-- It is about none of them, or it is refused. -/
  | quiet {r : Request} {d' : State} : d.Quiet d' →
      (d.accepts r = true → ∀ next before, r.sets next before = before) → Effect d r d'
  | made {program : Handle} {name : String} {p : Program} {signature : Signature} :
      d.accepts (.createKernel program name) = true →
      d.programs.get? program.id = some p → p.built = true →
      p.signatures.find? (·.name == name) = some signature →
      Effect d (.createKernel program name)
        (d.add (.kernel ⟨name, List.replicate signature.parameters none⟩))
  | cloned {kernel : Handle} {copy : Kernel} : d.accepts (.cloneKernel kernel) = true →
      d.kernels.get? kernel.id = some copy →
      Effect d (.cloneKernel kernel) (d.add (.kernel copy))
  | set {kernel : Handle} {index : Nat} {value : ArgumentValue} {k : Kernel} :
      d.accepts (.setArgument kernel index value) = true →
      d.kernels.get? kernel.id = some k → index < k.slots.length →
      Effect d (.setArgument kernel index value)
        { d with kernels := d.kernels.modify kernel.id fun k =>
          { k with slots := k.slots.set index (some value.argument) } }
  | built {program : Handle} {options : String} {p : Program} :
      d.accepts (.buildProgram program options) = true →
      d.programs.get? program.id = some p →
      Effect d (.buildProgram program options)
        { d with programs := d.programs.modify program.id fun p =>
          { p with built := true, signatures := declarations p.source } }
  | launched {kernel : Handle} {globalSize : List Nat} {localSize : Option (List Nat)}
      {k : Kernel} {arguments : List Argument} :
      d.accepts (.enqueueKernel kernel globalSize localSize) = true →
      SizesFit globalSize localSize → d.kernels.get? kernel.id = some k →
      k.slots = arguments.map some →
      Effect d (.enqueueKernel kernel globalSize localSize)
        { d with launches := d.launches ++ [⟨k.name, globalSize, localSize, arguments⟩] }

/-- What is refused leaves all as it was. -/
theorem Effect.of_refused {d d' : State} {r : Request} (hr : d.accepts r = false)
    (hd : d' = d) : Effect d r d' := by
  subst hd
  exact .quiet (Frame.refl d') fun h => absurd (hr.symm.trans h) Bool.false_ne_true

/-- **A request** that is loud makes, clones, sets, builds or launches, or it is refused. -/
theorem effect_after (d : State) (r : Request) : Effect d r (d.after r) := by
  by_cases hloud : r.IsLoud
  · cases r with
    | createKernel program name =>
      rcases (tries_createKernel program name).ignore.after_cases
        (r := .createKernel program name) rfl d with ⟨ha, h⟩ | ⟨ha, h⟩
      · obtain ⟨_, p, signature, hp, hb, hfind, heq, -⟩ := h
        rw [heq]
        exact .made ha hp hb hfind
      · exact .of_refused ha h
    | cloneKernel kernel =>
      rcases (tries_cloneKernel kernel).ignore.after_cases
        (r := .cloneKernel kernel) rfl d with ⟨ha, h⟩ | ⟨ha, h⟩
      · obtain ⟨_, copy, hcopy, heq, -⟩ := h
        rw [heq]
        exact .cloned ha hcopy
      · exact .of_refused ha h
    | setArgument kernel index value =>
      rcases (tries_setArgument kernel index value).after_cases
        (r := .setArgument kernel index value) rfl d with ⟨ha, h⟩ | ⟨ha, h⟩
      · obtain ⟨-, ⟨k, hk, hindex⟩, heq⟩ := h
        rw [heq]
        exact .set ha hk hindex
      · exact .of_refused ha h
    | enqueueKernel kernel globalSize localSize =>
      rcases (tries_enqueueKernel_fits kernel globalSize localSize).after_cases
        (r := .enqueueKernel kernel globalSize localSize) rfl d with ⟨ha, h⟩ | ⟨ha, h⟩
      · obtain ⟨hfit, k, arguments, hk, hslots, heq⟩ := h
        rw [heq]
        exact .launched ha hfit hk hslots
      · exact .of_refused ha h
    | buildProgram program options =>
      rcases after_buildProgram d program options with hq | ⟨ha, p, hp, heq⟩
      · exact .quiet hq fun _ _ _ => rfl
      · rw [heq]
        exact .built ha hp
    | _ => exact False.elim hloud
  · refine .quiet (quiet_after hloud) fun _ next before => ?_
    cases r with
    | createKernel | cloneKernel | setArgument => exact absurd trivial hloud
    | _ => rfl

/-- **Where a kernel comes from** that is there behind a request. -/
inductive KernelAfter (d : State) (r : Request) (id : Nat) (k : Kernel) : Prop
  /-- It was there, and nothing was set for it. -/
  | kept : d.kernels.get? id = some k →
      (d.accepts r = true → ∀ before, r.sets (d.lastId + 1) before id = before id) →
      KernelAfter d r id k
  /-- It was made for a program that was built. -/
  | made {program : Handle} {name : String} {p : Program} {signature : Signature} :
      d.accepts r = true → r = .createKernel program name → id = d.lastId + 1 →
      d.programs.get? program.id = some p → p.built = true →
      p.signatures.find? (·.name == name) = some signature →
      k = ⟨name, List.replicate signature.parameters none⟩ → KernelAfter d r id k
  /-- It was cloned. -/
  | cloned {kernel : Handle} : d.accepts r = true → r = .cloneKernel kernel → id = d.lastId + 1 →
      d.kernels.get? kernel.id = some k → KernelAfter d r id k
  /-- One of its arguments was set. -/
  | set {kernel : Handle} {index : Nat} {value : ArgumentValue} {k₀ : Kernel} :
      d.accepts r = true → r = .setArgument kernel index value → id = kernel.id →
      d.kernels.get? id = some k₀ → index < k₀.slots.length →
      k = { k₀ with slots := k₀.slots.set index (some value.argument) } → KernelAfter d r id k

theorem kernelAfter_of_get? {d : State} {r : Request} {id : Nat} {k : Kernel}
    (hk : (d.after r).kernels.get? id = some k) : KernelAfter d r id k := by
  have heffect := effect_after d r
  generalize d.after r = d' at heffect hk
  cases heffect with
  | quiet hquiet hsets => exact .kept (hquiet.kernels id k hk) fun ha before => by rw [hsets ha]
  | made ha hp hb hfind =>
    rw [State.get?_add_kernel] at hk
    split at hk
    · next hid => exact .made ha rfl hid hp hb hfind (Option.some.inj hk).symm
    · exact .kept hk fun _ _ => rfl
  | cloned ha hcopy =>
    rw [State.get?_add_kernel] at hk
    split at hk
    · next hid => exact .cloned ha rfl hid (hcopy.trans hk)
    · next hid =>
      refine .kept hk fun _ before => funext fun index => ?_
      rw [Request.sets, if_neg hid]
  | @set kernel index value k₁ ha hk₁ hindex =>
    obtain ⟨k₀, hk₀, rfl⟩ := Table.exists_of_get?_modify hk
    by_cases hid : id = kernel.id
    · subst hid
      obtain rfl := Option.some.inj (hk₁.symm.trans hk₀)
      rw [if_pos rfl]
      exact .set ha rfl rfl hk₀ hindex rfl
    · rw [if_neg hid]
      refine .kept hk₀ fun _ before => funext fun i => ?_
      rw [Request.sets, if_neg fun h => hid h.1.symm]
  | built => exact .kept hk fun _ _ => rfl
  | launched => exact .kept hk fun _ _ => rfl

/-- **What is built** behind a request was built, or the request was to build it. -/
theorem built_after {d : State} {r : Request} {id : Nat} {p' : Program}
    (hp' : (d.after r).programs.get? id = some p') (hb : p'.built = true) :
    ∃ p, d.programs.get? id = some p ∧ p.source = p'.source ∧
      (p.built = true ∨ d.accepts r = true ∧ ∃ program options,
        r = .buildProgram program options ∧ program.id = id) := by
  have heffect := effect_after d r
  generalize d.after r = d' at heffect hp'
  cases heffect with
  | quiet hquiet _ =>
    obtain ⟨p, hp, hpb, hs⟩ := hquiet.programs id p' hp' hb
    exact ⟨p, hp, hs, .inl hpb⟩
  | @built program options p ha hp =>
    obtain ⟨q, hq, rfl⟩ := Table.exists_of_get?_modify hp'
    by_cases hid : id = program.id
    · rw [if_pos hid]
      exact ⟨q, hq, rfl, .inr ⟨ha, program, options, rfl, hid.symm⟩⟩
    · rw [if_neg hid] at hb ⊢
      exact ⟨q, hq, rfl, .inl hb⟩
  | made | cloned | set | launched => exact ⟨p', hp', rfl, .inl hb⟩

/-- **What is launched** behind a request was launched, or the request was to launch it: then the
sizes fit, and the arguments are the values that all slots of the kernel have. -/
theorem launch_after {d : State} {r : Request} {l : Launch} (hl : l ∈ (d.after r).launches) :
    l ∈ d.launches ∨ d.accepts r = true ∧ ∃ kernel k,
      r = .enqueueKernel kernel l.globalSize l.localSize ∧ SizesFit l.globalSize l.localSize ∧
      d.kernels.get? kernel.id = some k ∧ k.slots = l.arguments.map some ∧ l.kernel = k.name := by
  have heffect := effect_after d r
  generalize d.after r = d' at heffect hl
  cases heffect with
  | quiet hquiet _ => exact .inl (hquiet.launches ▸ hl)
  | @launched kernel globalSize localSize k arguments ha hfit hk hslots =>
    rcases List.mem_append.1 hl with hl | hl
    · exact .inl hl
    · obtain rfl := List.mem_singleton.1 hl
      exact .inr ⟨ha, kernel, k, rfl, hfit, hk, hslots, rfl⟩
  | made | cloned | set | built => exact .inl hl

/-! ## Launches and the history -/

namespace History

/-- A launch was asked for and done; its kernel was made for a program that declares it with as many
parameters as there are arguments, and each argument is the value that was last set for its slot. -/
def Recorded (serial : Nat) (past : History) (l : Launch) : Prop :=
  ∃ kernel earlier, Did serial past (.enqueueKernel kernel l.globalSize l.localSize) earlier ∧
    Declares serial earlier kernel.id l.kernel l.arguments.length ∧
    ∀ index < l.arguments.length, lastSet serial earlier kernel.id index = l.arguments[index]?

/-- What a driver keeps is what its history says: slots hold what was last set for them, as many as
the declaration of the kernel has parameters, what is built was built, and launches were asked for.
-/
structure Explained (serial : Nat) (past : History) : Prop where
  slots : ∀ id k, (state serial past).kernels.get? id = some k → ∀ index < k.slots.length,
    k.slots[index]? = some (lastSet serial past id index)
  declared : ∀ id k, (state serial past).kernels.get? id = some k →
    Declares serial past id k.name k.slots.length
  built : ∀ id p, (state serial past).programs.get? id = some p → p.built = true →
    BuiltFrom serial past id p.source
  launches : ∀ l ∈ (state serial past).launches,
    SizesFit l.globalSize l.localSize ∧ Recorded serial past l

variable {serial : Nat} {past : History}

theorem Recorded.cons {l : Launch} (h : Recorded serial past l) (r : Request) :
    Recorded serial (r :: past) l := by
  obtain ⟨kernel, earlier, hdid, hrest⟩ := h
  exact ⟨kernel, earlier, hdid.cons r, hrest⟩

/-- A kernel that there was is of the same origin ever after. -/
theorem Declares.cons {id : Nat} {name : String} {n : Nat} (h : Declares serial past id name n)
    (hid : id ≤ (state serial past).lastId) (r : Request) :
    Declares serial (r :: past) id name n := by
  obtain ⟨program, source, signature, horigin, hbuilt, hfind⟩ := h
  refine ⟨program, source, signature, ?_, hbuilt.cons r, hfind⟩
  rw [origin, if_neg fun h => absurd h.2 (by omega), horigin]

/-- Ids go up. -/
theorem lastId_le_after {d : State} (hd : d.Sound) (r : Request) :
    d.lastId ≤ (d.after r).lastId := by
  have hchange := change_after hd r
  generalize d.after r = d' at hchange ⊢
  cases hchange with
  | settle h => exact Nat.le_of_eq h.lastId.symm
  | add => exact Nat.le_succ _
  | release h => exact Nat.le_of_eq (d.lastId_release h).symm
  | write | build | refuse | argument => exact Nat.le_refl _

/-- Nothing was set for a kernel that there never was. -/
theorem lastSet_of_lt (past : History) {id : Nat} (hid : (state serial past).lastId < id)
    (index : Nat) : lastSet serial past id index = none := by
  induction past generalizing id index with
  | nil => rfl
  | cons r past ih =>
    have hd : (state serial past).Sound := (reached_state past).sound
    have hlt : (state serial past).lastId < id := Nat.lt_of_le_of_lt (lastId_le_after hd r) hid
    have hih := ih hlt
    rw [lastSet]
    split
    · -- What was done names kernels that there were, and this is none of them.
      next ha =>
      cases r with
      | setArgument kernel i value =>
        obtain ⟨-, ⟨k, hk, -⟩, -⟩ := (tries_setArgument kernel i value).of_accepts rfl ha
        have hle := hd.fresh.le_of_kernel hk
        rw [Request.sets, if_neg fun h => by omega, hih]
      | cloneKernel kernel =>
        obtain ⟨_, copy, -, heq, -⟩ := (tries_cloneKernel kernel).ignore.of_accepts
          (r := .cloneKernel kernel) rfl ha
        have hnext : (state serial past).lastId + 1 < id := by
          rw [state, heq] at hid
          exact hid
        rw [Request.sets, if_neg (by omega), hih]
      | _ => exact hih index
    · exact hih index

section Cons

variable {r : Request} {id : Nat} {k : Kernel}

/-- Slots hold what was last set for them, one request later as well. -/
theorem Explained.slots_cons (h : Explained serial past)
    (hk : (state serial (r :: past)).kernels.get? id = some k) {index : Nat}
    (hi : index < k.slots.length) :
    k.slots[index]? = some (lastSet serial (r :: past) id index) := by
  cases kernelAfter_of_get? hk with
  | kept hold hsets =>
    have hsame : lastSet serial (r :: past) id index = lastSet serial past id index := by
      rw [lastSet]
      split
      · next ha => rw [hsets ha]
      · rfl
    rw [hsame]
    exact h.slots id k hold index hi
  | @made program name p signature ha hr hid hp hb hfind heq =>
    subst hr heq
    -- The id is a new one, so nothing was ever set for it.
    have hnone : lastSet serial (.createKernel program name :: past) id index = none := by
      rw [lastSet, if_pos ha]
      exact lastSet_of_lt past (by omega) index
    rw [hnone, List.getElem?_replicate, if_pos (by simpa using hi)]
  | @cloned kernel ha hr hid hcopy =>
    subst hr
    rw [lastSet, if_pos ha, Request.sets, if_pos hid]
    exact h.slots kernel.id k hcopy index hi
  | @set kernel i value k₀ ha hr hid hold _ heq =>
    subst hr heq
    rw [List.length_set] at hi
    dsimp only
    rw [lastSet, if_pos ha, Request.sets, List.getElem?_set]
    by_cases hindex : i = index
    · subst hindex
      rw [if_pos rfl, if_pos hi, if_pos ⟨hid.symm, rfl⟩]
    · rw [if_neg hindex, if_neg fun h => hindex h.2]
      exact h.slots id k₀ hold index hi

/-- Kernels are declared as they were made, one request later as well. -/
theorem Explained.declared_cons (h : Explained serial past)
    (hk : (state serial (r :: past)).kernels.get? id = some k) :
    Declares serial (r :: past) id k.name k.slots.length := by
  have hd : (state serial past).Sound := (reached_state past).sound
  cases kernelAfter_of_get? hk with
  | kept hold _ => exact (h.declared id k hold).cons (hd.fresh.le_of_kernel hold) r
  | @made program name p signature ha hr hid hp hb hfind heq =>
    subst hr heq
    have hsound := hd.program program.id p hp
    refine ⟨program.id, p.source, signature, ?_, (h.built program.id p hp hb).cons _, ?_, ?_⟩
    · rw [origin, if_pos ⟨ha, hid⟩]
      rfl
    · rw [← hsound.declared hb]
      exact hfind
    · exact List.length_replicate.symm
  | @cloned kernel ha hr hid hcopy =>
    subst hr
    obtain ⟨program, source, signature, horigin, hbuilt, hfind⟩ := h.declared kernel.id k hcopy
    refine ⟨program, source, signature, ?_, hbuilt.cons _, hfind⟩
    rw [origin, if_pos ⟨ha, hid⟩]
    exact horigin
  | @set kernel i value k₀ ha hr hid hold _ heq =>
    subst heq
    dsimp only
    rw [List.length_set]
    exact (h.declared id k₀ hold).cons (hd.fresh.le_of_kernel hold) r

/-- Launches were asked for, the latest one too. -/
theorem Explained.launches_cons (h : Explained serial past) {l : Launch}
    (hl : l ∈ (state serial (r :: past)).launches) :
    SizesFit l.globalSize l.localSize ∧ Recorded serial (r :: past) l := by
  rcases launch_after hl with hold | ⟨ha, kernel, k, rfl, hfit, hk, hslots, hname⟩
  · obtain ⟨hfit, hrec⟩ := h.launches l hold
    exact ⟨hfit, hrec.cons r⟩
  · have hlength : k.slots.length = l.arguments.length := by rw [hslots, List.length_map]
    refine ⟨hfit, kernel, past, ⟨List.suffix_refl _, ha⟩, ?_, fun index hi => ?_⟩
    · rw [hname, ← hlength]
      exact h.declared kernel.id k hk
    · -- All slots are set, so what one of them holds is the argument.
      have hslot := h.slots kernel.id k hk index (hlength ▸ hi)
      rw [hslots, List.getElem?_map] at hslot
      rw [List.getElem?_eq_getElem hi] at hslot ⊢
      exact (Option.some.inj hslot).symm

end Cons

/-- **One request more** is explained as well. -/
theorem Explained.cons (h : Explained serial past) (r : Request) :
    Explained serial (r :: past) := by
  refine ⟨fun _ _ hk _ hi => h.slots_cons hk hi, fun _ _ hk => h.declared_cons hk,
    fun id p' hp' hb => ?_, fun _ hl => h.launches_cons hl⟩
  obtain ⟨p, hp, hs, hold | ⟨ha, program, options, rfl, hid⟩⟩ := built_after hp' hb
  · exact hs ▸ (h.built id p hp hold).cons r
  · exact ⟨program, options, past, p, ⟨List.suffix_refl _, ha⟩, hid, hp, hs⟩

theorem explained (serial : Nat) (h : History) : Explained serial h := by
  induction h with
  | nil => exact ⟨nofun, nofun, nofun, nofun⟩
  | cons r past ih => exact ih.cons r

/-- **Every recorded launch is well formed.** Whatever a driver was asked since it was started, and
with whatever handles, a launch that it recorded has one to three dimensions, none of them zero, and
local sizes, if there are any, that are as many and divide the global ones. It was asked for at some
moment, and as the history was by then, its kernel, or the one that it is a clone of, was made for
a program that had been built, it has as many arguments as the first declaration of its name in the
source of that program has parameters, and each of them is the value that was last set for its slot
on this kernel, or on the one that it is a clone of before it was cloned. -/
theorem launch_wellFormed (serial : Nat) (h : History) {l : Launch}
    (hl : l ∈ (state serial h).launches) :
    SizesFit l.globalSize l.localSize ∧
    ∃ kernel earlier, Did serial h (.enqueueKernel kernel l.globalSize l.localSize) earlier ∧
      (∃ program source signature, origin serial earlier kernel.id = some (program, l.kernel) ∧
        BuiltFrom serial earlier program source ∧
        (declarations source).find? (·.name == l.kernel) = some signature ∧
        l.arguments.length = signature.parameters) ∧
      ∀ index < l.arguments.length,
        lastSet serial earlier kernel.id index = l.arguments[index]? := by
  obtain ⟨hfit, kernel, earlier, hdid, hdeclares, hset⟩ := (explained serial h).launches l hl
  obtain ⟨program, source, signature, horigin, hbuilt, hfind, hcount⟩ := hdeclares
  exact ⟨hfit, kernel, earlier, hdid,
    ⟨program, source, signature, horigin, hbuilt, hfind, hcount.symm⟩, hset⟩

/-- A kernel is cloned between two values for its slot, the clone is launched, and then the kernel.
-/
def ofClone : History :=
  [.enqueueKernel ⟨2, .kernel, some 0⟩ [4] none,
    .enqueueKernel ⟨3, .kernel, some 0⟩ [4, 6] (some [2, 3]),
    .setArgument ⟨2, .kernel, some 0⟩ 0 (.bytes [8]),
    .cloneKernel ⟨2, .kernel, some 0⟩,
    .setArgument ⟨2, .kernel, some 0⟩ 0 (.bytes [7]),
    .createKernel ⟨1, .program, some 0⟩ "f",
    .buildProgram ⟨1, .program, some 0⟩ "",
    .createProgram "kernel void f(int n) {}"]

/-- The clone is launched with the value that was set before it was made. -/
theorem launch_wellFormed_of_clone :
    ⟨"f", [4, 6], some [2, 3], [.bytes [7]]⟩ ∈ (state 0 ofClone).launches ∧
      SizesFit [4, 6] (some [2, 3]) ∧
      ∃ kernel earlier, Did 0 ofClone (.enqueueKernel kernel [4, 6] (some [2, 3])) earlier ∧
        lastSet 0 earlier kernel.id 0 = some (.bytes [7]) := by
  have hl : ⟨"f", [4, 6], some [2, 3], [.bytes [7]]⟩ ∈ (state 0 ofClone).launches := by
    decide +kernel
  obtain ⟨hfit, kernel, earlier, hdid, -, hset⟩ := launch_wellFormed 0 ofClone hl
  exact ⟨hl, hfit, kernel, earlier, hdid, hset 0 (by simp)⟩

end History

end DriverBench.Simulator
