import DriverBench.Command.Launch
import DriverBench.Proofs.Session.Drive
/-!
# Setting arguments

Objects are handed to a kernel one after the other, and the driver is asked anew for each of them.
So the objects in front of the first one that cannot be set are set, each in the slot of its number,
and nothing else is done (`exists_of_setArguments`); only if there is no such object, all of them
are. What that means for the kernel is said by `Kernel.Receives`.
-/

namespace DriverBench

open Device Simulator

/-! ## Kernels with arguments -/

namespace Simulator

/-- A kernel with arguments in its slots from a number on. -/
def Kernel.setFrom (k : Kernel) : Nat → List Argument → Kernel
  | _, [] => k
  | index, a :: rest => { k with slots := k.slots.set index (some a) }.setFrom (index + 1) rest

/-- The driver with arguments of a kernel set from a number on. -/
def State.setArguments (d : State) (id index : Nat) (arguments : List Argument) : State :=
  { d with kernels := d.kernels.modify id fun k => k.setFrom index arguments }

theorem Kernel.name_setFrom (k : Kernel) (index : Nat) (arguments : List Argument) :
    (k.setFrom index arguments).name = k.name := by
  induction arguments generalizing k index with
  | nil => rfl
  | cons a rest ih => rw [setFrom, ih]

theorem Kernel.length_slots_setFrom (k : Kernel) (index : Nat) (arguments : List Argument) :
    (k.setFrom index arguments).slots.length = k.slots.length := by
  induction arguments generalizing k index with
  | nil => rfl
  | cons a rest ih =>
    rw [setFrom, ih]
    exact List.length_set

/-- **The slots behind a setting**: the arguments stand one after the other, and around them nothing
has changed. -/
theorem Kernel.getElem?_slots_setFrom (k : Kernel) (index : Nat) (arguments : List Argument)
    (h : index + arguments.length ≤ k.slots.length) (i : Nat) :
    (k.setFrom index arguments).slots[i]? =
      if index ≤ i ∧ i < index + arguments.length then arguments[i - index]?.map some
      else k.slots[i]? := by
  induction arguments generalizing k index with
  | nil =>
    rw [setFrom, if_neg]
    simp
  | cons a rest ih =>
    rw [List.length_cons] at h
    have hset : ({ k with slots := k.slots.set index (some a) } : Kernel).slots.length =
        k.slots.length := List.length_set
    rw [setFrom, ih _ _ (by rw [hset]; omega)]
    -- The slot is before the first argument, is that of it, or comes behind it.
    rcases Nat.lt_trichotomy i index with hlt | rfl | hgt
    · rw [if_neg (by omega), if_neg (by omega)]
      exact List.getElem?_set_ne (by omega)
    · rw [if_neg (by omega), if_pos (by simp), Nat.sub_self]
      exact List.getElem?_set_self (by omega)
    · have hsub : i - index = (i - (index + 1)) + 1 := by omega
      rw [hsub, List.getElem?_cons_succ, List.length_cons]
      by_cases hi : i < index + 1 + rest.length
      · rw [if_pos (by omega), if_pos (by omega)]
      · rw [if_neg (by omega), if_neg (by omega)]
        exact List.getElem?_set_ne (by omega)

theorem State.setArguments_nil (d : State) (id index : Nat) : d.setArguments id index [] = d := by
  have hid : d.kernels.modify id (fun k => k.setFrom index []) = d.kernels := by
    simp [Table.modify, Kernel.setFrom]
  rw [setArguments, hid]

/-- Setting one argument and then those behind it. -/
theorem State.setArguments_cons (d : State) (id index : Nat) (a : Argument) (rest : List Argument) :
    (d.setArguments id index [a]).setArguments id (index + 1) rest =
      d.setArguments id index (a :: rest) := by
  unfold setArguments
  rw [Table.modify_modify]
  rfl

theorem State.get?_setArguments (d : State) (id index : Nat) (arguments : List Argument) :
    (d.setArguments id index arguments).kernels.get? id =
      (d.kernels.get? id).map (·.setFrom index arguments) := by
  rw [setArguments, Table.get?_modify, if_pos rfl]

theorem gives_setArgument {d : State} {kernel : Handle} {index : Nat} {value : ArgumentValue}
    {k : Kernel} (hlive : ∀ id, value.argument = .memory id → d.memories.contains id = true)
    (hk : d.kernels.get? kernel.id = some k) (hi : index < k.slots.length) :
    (setArgument kernel index value).Gives d ()
      (d.setArguments kernel.id index [value.argument]) := by
  have hargument : (argumentOf value).Gives d value.argument d := by
    cases value with
    | bytes bytes => rfl
    | memory m =>
      obtain ⟨e, he⟩ := Option.isSome_iff_exists.1 (hlive m.handle.id rfl)
      unfold argumentOf Call.Gives
      rw [Action.run_get_bind, he]
      rfl
  unfold setArgument Call.Gives at *
  rw [Action.run_bind, hargument]
  dsimp only
  rw [Action.run_get_bind, hk]
  change (if k.slots.length ≤ index then _ else _ : Call Unit).run.run d = _
  rw [if_neg (by omega)]
  rfl

/-- **What is handed over**: memory of the device by its id; data and pixels of the host by their
bytes. Nothing else can be. -/
inductive Passed : Object → Argument → Prop
  | memory (m : Memory) : Passed (.memory m) (.memory m.handle.id)
  | data (d : Data) : Passed (.data d) (.bytes d.bytes)
  | image (i : Image) : Passed (.image i) (.bytes i.data.bytes)

/-- **A kernel that was given objects**, from a slot on, in comparison with what it was: there are
slots for all of them, each is in the slot of its place, and the other slots are as before. -/
structure Kernel.Receives (k : Kernel) (first : Nat) (objects : List Object) (k' : Kernel) :
    Prop where
  name : k'.name = k.name
  length : k'.slots.length = k.slots.length
  room : objects ≠ [] → first + objects.length ≤ k.slots.length
  given : ∀ (i : Nat) (o : Object), objects[i]? = some o →
    ∃ a, Passed o a ∧ k'.slots[first + i]? = some (some a)
  others : ∀ i, i < first ∨ first + objects.length ≤ i → k'.slots[i]? = k.slots[i]?

/-- An object has no place in a kernel: it is neither memory nor data, or the slot that it would go
into is not there. -/
def Kernel.Rejects (k : Kernel) (index : Nat) (o : Object) : Prop :=
  (∀ a, ¬ Passed o a) ∨ k.slots.length ≤ index

end Simulator

namespace Statement

/-! ## What is set of a list of objects -/

/-- The argument that an object makes. -/
def argument? (o : Object) : Option Argument :=
  (argumentValue? o).map ArgumentValue.argument

theorem argument?_eq_some_iff {o : Object} {a : Argument} : argument? o = some a ↔ Passed o a := by
  constructor
  · intro h
    cases o <;> cases h
    · exact .data _
    · exact .image _
    · exact .memory _
  · rintro (_ | _ | _) <;> rfl

/-- Where every element makes something, each stands in the place of what it was made of. -/
theorem exists_of_mapM {α β : Type} {f : α → Option β} {l : List α} {as : List β}
    (h : l.mapM f = some as) {i : Nat} {x : α} (hx : l[i]? = some x) :
    ∃ a, f x = some a ∧ as[i]? = some a := by
  induction l generalizing as i with
  | nil => cases hx
  | cons y rest ih =>
    rw [List.mapM_cons] at h
    obtain ⟨a, ha, h⟩ := Option.bind_eq_some_iff.1 h
    obtain ⟨as', has, h⟩ := Option.bind_eq_some_iff.1 h
    obtain rfl := Option.some.inj h
    cases i with
    | zero =>
      obtain rfl := Option.some.inj hx
      exact ⟨a, ha, rfl⟩
    | succ i => exact ih has hx

/-- Every element makes one thing. -/
theorem length_of_mapM {α β : Type} {f : α → Option β} {l : List α} {as : List β}
    (h : l.mapM f = some as) : as.length = l.length := by
  induction l generalizing as with
  | nil =>
    obtain rfl := Option.some.inj h
    rfl
  | cons y rest ih =>
    rw [List.mapM_cons] at h
    obtain ⟨a, -, h⟩ := Option.bind_eq_some_iff.1 h
    obtain ⟨as', has, h⟩ := Option.bind_eq_some_iff.1 h
    obtain rfl := Option.some.inj h
    rw [List.length_cons, List.length_cons, ih has]

/-- An object can be set: it makes an argument, which is there if it is memory, and the kernel has
the slot. -/
structure Settable (d : State) (kernel : Handle) (index : Nat) (o : Object) : Prop where
  argument : ∃ a, argument? o = some a ∧ ∀ id, a = .memory id → d.memories.contains id = true
  slot : ∃ k, d.kernels.get? kernel.id = some k ∧ index < k.slots.length

/-- What setting arguments from a number on comes to: each object makes one, what is memory is
there, and there are slots for all of them. -/
structure Fits (d : State) (kernel : Handle) (index : Nat) (values : List (Token × Entity))
    (arguments : List Argument) : Prop where
  values : values.mapM (fun v => argument? v.2.object) = some arguments
  live : ∀ id, .memory id ∈ arguments → d.memories.contains id = true
  slots : arguments = [] ∨
    ∃ k, d.kernels.get? kernel.id = some k ∧ index + arguments.length ≤ k.slots.length

section Setting

variable {d : State} {kernel : Handle} {index : Nat} {values : List (Token × Entity)}
  {arguments : List Argument}

theorem fits_nil : Fits d kernel index [] [] :=
  ⟨rfl, by simp, .inl rfl⟩

theorem settable_iff_of_setArguments {o : Object} {i : Nat} :
    Settable (d.setArguments kernel.id index arguments) kernel i o ↔ Settable d kernel i o := by
  refine ⟨fun h => ⟨h.argument, ?_⟩, fun h => ⟨h.argument, ?_⟩⟩
  · obtain ⟨k, hk, hlt⟩ := h.slot
    rw [State.get?_setArguments] at hk
    obtain ⟨k₀, hk₀, rfl⟩ := Option.map_eq_some_iff.1 hk
    exact ⟨k₀, hk₀, by rwa [Kernel.length_slots_setFrom] at hlt⟩
  · obtain ⟨k, hk, hlt⟩ := h.slot
    exact ⟨k.setFrom index arguments, by rw [State.get?_setArguments, hk, Option.map_some],
      by rwa [Kernel.length_slots_setFrom]⟩

/-- The first object is set, and then those behind it. -/
theorem Fits.cons {t : Token} {e : Entity} {a : Argument} (ha : argument? e.object = some a)
    (hlive : ∀ id, a = .memory id → d.memories.contains id = true) {k : Kernel}
    (hk : d.kernels.get? kernel.id = some k) (hlt : index < k.slots.length)
    (h : Fits (d.setArguments kernel.id index [a]) kernel (index + 1) values arguments) :
    Fits d kernel index ((t, e) :: values) (a :: arguments) := by
  refine ⟨?_, fun id hid => ?_, .inr ⟨k, hk, ?_⟩⟩
  · rw [List.mapM_cons, ha, Option.bind_eq_bind, Option.bind_some, h.values]
    rfl
  · rcases List.mem_cons.1 hid with hid | hid
    · exact hlive id hid.symm
    · exact h.live id hid
  · rcases h.slots with rfl | ⟨k', hk', hle⟩
    · exact hlt
    · rw [State.get?_setArguments, hk, Option.map_some] at hk'
      obtain rfl := Option.some.inj hk'
      rw [Kernel.length_slots_setFrom] at hle
      rw [List.length_cons]
      omega

/-- **What the kernel is given** is just the objects, in their order. -/
theorem Fits.receives (h : Fits d kernel index values arguments) {k : Kernel}
    (hk : d.kernels.get? kernel.id = some k) :
    k.Receives index (values.map (·.2.object)) (k.setFrom index arguments) := by
  have hlength : (values.map (·.2.object)).length = arguments.length := by
    rw [List.length_map, length_of_mapM h.values]
  have hroom : arguments ≠ [] → index + arguments.length ≤ k.slots.length := by
    intro hne
    rcases h.slots with hnil | ⟨k', hk', hle⟩
    · exact absurd hnil hne
    · obtain rfl := Option.some.inj (hk.symm.trans hk')
      exact hle
  have hslot : ∀ i, (k.setFrom index arguments).slots[i]? =
      if index ≤ i ∧ i < index + arguments.length then arguments[i - index]?.map some
      else k.slots[i]? := by
    intro i
    by_cases hnil : arguments = []
    · subst hnil
      rw [Kernel.setFrom, if_neg]
      simp
    · exact k.getElem?_slots_setFrom index arguments (hroom hnil) i
  refine ⟨k.name_setFrom _ _, k.length_slots_setFrom _ _, fun hne => ?_, fun i o hi => ?_,
    fun i hi => ?_⟩
  · rw [hlength]
    refine hroom fun hnil => hne (List.length_eq_zero_iff.1 ?_)
    rw [hlength, hnil]
    rfl
  · rw [List.getElem?_map] at hi
    obtain ⟨⟨t, e⟩, hv, rfl⟩ := Option.map_eq_some_iff.1 hi
    obtain ⟨a, ha, hai⟩ := exists_of_mapM h.values hv
    have hlt : i < arguments.length := (List.getElem?_eq_some_iff.1 hai).1
    refine ⟨a, argument?_eq_some_iff.1 ha, ?_⟩
    rw [hslot, if_pos (by omega), Nat.add_sub_cancel_left, hai, Option.map_some]
  · rw [hslot, if_neg]
    rw [hlength] at hi
    omega

/-- An object is set if and only if it can be. -/
theorem run_setArguments_cons (kernel : Handle) (index : Nat) (t : Token) (e : Entity)
    (values : List (Token × Entity)) {s : Session} {n : Nat} (hn : s.active = some n)
    (hd : s.fleet.get? n = some d) :
    (∃ a, argument? e.object = some a ∧
      (∀ id, a = .memory id → d.memories.contains id = true) ∧
      (∃ k, d.kernels.get? kernel.id = some k ∧ index < k.slots.length) ∧
      (setArguments kernel index ((t, e) :: values)).run.run s =
        (setArguments kernel (index + 1) values).run.run
          (s.withDriver n (d.setArguments kernel.id index [a]))) ∨
    ¬ Settable d kernel index e.object ∧
      ∃ f, (setArguments kernel index ((t, e) :: values)).run.run s = (.error f, s) := by
  rw [setArguments]
  cases hv : argumentValue? e.object with
  | none =>
    refine .inr ⟨fun h => ?_, _, rfl⟩
    obtain ⟨a, ha, -⟩ := h.argument
    rw [argument?, hv] at ha
    cases ha
  | some value =>
    have ha : argument? e.object = some value.argument := by rw [argument?, hv, Option.map_some]
    dsimp only
    rw [Action.run_bind, Action.run_atSpan, Action.run_drive, hn]
    dsimp only
    rw [hd]
    dsimp only
    have hset := tries_setArgument kernel index value d d rfl
    rcases hr : (setArgument kernel index value).run.run d with ⟨err | u, d'⟩
    · rw [hr] at hset
      obtain rfl : d' = d := hset
      refine .inr ⟨fun h => ?_, _, by dsimp only; rw [Session.withDriver_self hd]⟩
      obtain ⟨a, ha', hlive⟩ := h.argument
      obtain ⟨k, hk, hlt⟩ := h.slot
      obtain rfl := Option.some.inj (ha.symm.trans ha')
      have hgives := gives_setArgument hlive hk hlt
      unfold Call.Gives at hgives
      rw [hr] at hgives
      cases hgives
    · rw [hr] at hset
      obtain ⟨hlive, hslot, rfl⟩ := hset
      exact .inl ⟨value.argument, ha, hlive, hslot, rfl⟩

/-- **Setting arguments** sets the objects in front of the first one that cannot be set, and goes
through if there is none. -/
theorem exists_of_setArguments (kernel : Handle) (index : Nat) (values : List (Token × Entity))
    {s : Session} {n : Nat} (hn : s.active = some n) (hd : s.fleet.get? n = some d) :
    ∃ set rest arguments, values = set ++ rest ∧ Fits d kernel index set arguments ∧
      ((setArguments kernel index values).run.run s).2 =
        s.withDriver n (d.setArguments kernel.id index arguments) ∧
      (rest = [] ∧ ((setArguments kernel index values).run.run s).1 = .ok () ∨
        ∃ t e later f, rest = (t, e) :: later ∧
          ¬ Settable d kernel (index + set.length) e.object ∧
          ((setArguments kernel index values).run.run s).1 = .error f) := by
  induction values generalizing index s d with
  | nil =>
    refine ⟨[], [], [], rfl, fits_nil, ?_, .inl ⟨rfl, rfl⟩⟩
    rw [State.setArguments_nil, Session.withDriver_self hd]
    rfl
  | cons v values ih =>
    obtain ⟨t, e⟩ := v
    obtain ⟨a, ha, hlive, ⟨k, hk, hlt⟩, hrun⟩ | ⟨hnot, f, hrun⟩ :=
      run_setArguments_cons kernel index t e values hn hd
    · -- The rest starts from the driver with the first argument set.
      have hd' := Session.get?_withDriver hd (d.setArguments kernel.id index [a])
      have hn' : (s.withDriver n (d.setArguments kernel.id index [a])).active = some n := hn
      obtain ⟨set, rest, arguments, rfl, hfits, hend, hanswer⟩ := ih (index + 1) hn' hd'
      rw [hrun, hend]
      refine ⟨(t, e) :: set, rest, a :: arguments, rfl, hfits.cons ha hlive hk hlt, ?_, ?_⟩
      · rw [Session.withDriver_withDriver, State.setArguments_cons]
      · refine hanswer.imp id ?_
        rintro ⟨t', e', later, f, hrest, hnot, hf⟩
        refine ⟨t', e', later, f, hrest, fun h => hnot (settable_iff_of_setArguments.2 ?_), hf⟩
        rwa [List.length_cons, Nat.add_comm set.length, ← Nat.add_assoc] at h
    · refine ⟨[], (t, e) :: values, [], rfl, fits_nil, ?_, .inr ⟨t, e, values, f, rfl, hnot, ?_⟩⟩
      · rw [hrun, State.setArguments_nil, Session.withDriver_self hd]
      · rw [hrun]

/-- **Setting arguments** sets one for each object, in order, and does nothing else. -/
theorem ensures_setArguments (kernel : Handle) (index : Nat) (values : List (Token × Entity))
    {s₀ : Session} {n : Nat} {d₀ : State} (hn : s₀.active = some n)
    (hd₀ : s₀.fleet.get? n = some d₀) :
    Action.Ensures (fun s => s = s₀) (setArguments kernel index values)
      (fun _ s => ∃ arguments, Fits d₀ kernel index values arguments ∧
        s = s₀.withDriver n (d₀.setArguments kernel.id index arguments)) (fun _ => True) := by
  rintro s rfl
  obtain ⟨set, rest, arguments, rfl, hfits, hend, hanswer⟩ :=
    exists_of_setArguments kernel index values hn hd₀
  rcases hr : (setArguments kernel index (set ++ rest)).run.run s with ⟨f | u, s'⟩
  · trivial
  · rw [hr] at hend hanswer
    obtain ⟨rfl, -⟩ | ⟨t, e, later, f, -, -, hf⟩ := hanswer
    · rw [List.append_nil]
      exact ⟨arguments, hfits, hend⟩
    · cases hf

end Setting

end Statement

end DriverBench
