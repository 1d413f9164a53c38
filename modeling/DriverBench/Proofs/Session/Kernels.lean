import DriverBench.Proofs.Command.Setting
import DriverBench.Proofs.Session.Failure
/-!
# The kernels of a session

What a line does to kernels is said of each of them on its own: the one under an id has become
another one, or is as it was (`Turns`). Kernels that a line makes on its way are gone when it is
done, and none that was there before goes. So between two lines just the kernels are there that were
there before, each of them as the line has left it (`Turns.kernel?_eq`).
-/

namespace DriverBench

open Device Simulator

namespace Session

/-- The kernel that the driver in use keeps under an id. -/
def kernel? (s : Session) (id : Nat) : Option Kernel :=
  s.driver?.bind (·.kernels.get? id)

/-- The kernels have turned, each in its way. The same ones are referred to, and those that are
still there were there. -/
structure Turns (turn : Nat → Kernel → Kernel) (s s' : Session) : Prop where
  reachable : ∀ h : Handle, h.kind = .kernel → (h ∈ s'.reachable ↔ h ∈ s.reachable)
  kernels : ∀ d, s.driver? = some d → ∃ d', s'.driver? = some d' ∧ d.lastId ≤ d'.lastId ∧
    ∀ id k', id ≤ d.lastId → d'.kernels.get? id = some k' →
      ∃ k, d.kernels.get? id = some k ∧ k' = turn id k

/-- **A kernel was given objects**, from a slot on, and nothing was done to the other kernels. It
may be one that the line itself has made: then it was there when the objects had been read. -/
structure GaveObjects (s read s' : Session) (kernel : Handle) (first : Nat)
    (objects : List Object) (k k' : Kernel) : Prop where
  found : read.kernel? kernel.id = some k
  before : ∀ k₀, s.kernel? kernel.id = some k₀ → k₀ = k
  receives : k.Receives first objects k'
  kernels : ∀ id, s'.kernel? id =
    if id = kernel.id then (s.kernel? id).map fun _ => k' else s.kernel? id

variable {s s' s'' read : Session} {turn turn' : Nat → Kernel → Kernel} {d d' : State} {n : Nat}

theorem kernel?_of_driver? (hd : s.driver? = some d) (id : Nat) :
    s.kernel? id = d.kernels.get? id := by
  rw [kernel?, hd, Option.bind_some]

/-- A kernel is there if something refers to it. -/
theorem Idle.isSome_kernel?_iff (hs : s.Idle) (id : Nat) :
    (s.kernel? id).isSome ↔ ∃ h ∈ s.reachable, h.id = id ∧ h.kind = .kernel := by
  have htable : ∀ h : Handle, h.kind.table = HandleKind.kernel.table ↔ h.kind = .kernel := by
    intro h
    cases h.kind <;> simp [HandleKind.table]
  cases hd : s.driver? with
  | none =>
    refine iff_of_false (by simp [kernel?, hd]) ?_
    rintro ⟨h, hh, -⟩
    have hlive : (s.fleet.kept? h).isSome := (hs.balanced.live h).2 (.inl (hs.handles_eq ▸ hh))
    have hdriver := hs.balanced.isSome_driver?_of_live hlive
    rw [hd] at hdriver
    cases hdriver
  | some d =>
    obtain ⟨n, hn, hget⟩ := exists_of_driver? hd
    have hlookup := hs.balanced.isSome_lookup_iff_of_active hn hget .kernel id
    rw [State.lookup, Option.isSome_map, hs.handles_eq] at hlookup
    simp only [htable] at hlookup
    rwa [kernel?_of_driver? hd]

/-- A kernel that is another one behind a line is the one that was given something. -/
theorem GaveObjects.slots_of_ne {kernel : Handle} {first id : Nat} {objects : List Object}
    {k k' : Kernel} {slots slots' : List (Option Argument)}
    (h : s.GaveObjects read s' kernel first objects k k')
    (hbefore : (s.kernel? id).map Kernel.slots = some slots)
    (hafter : (s'.kernel? id).map Kernel.slots = some slots') (hne : slots ≠ slots') :
    k.slots = slots ∧ k'.slots = slots' := by
  rw [h.kernels id] at hafter
  by_cases hid : id = kernel.id
  · subst hid
    obtain ⟨k₀, hk₀, rfl⟩ := Option.map_eq_some_iff.1 hbefore
    obtain rfl := h.before k₀ hk₀
    rw [if_pos rfl, hk₀] at hafter
    exact ⟨rfl, Option.some.inj hafter⟩
  · rw [if_neg hid, hbefore] at hafter
    exact absurd (Option.some.inj hafter) hne

/-! ## Turning kernels -/

theorem Turns.trans (h : s.Turns turn s') (h' : s'.Turns turn' s'') :
    s.Turns (fun id k => turn' id (turn id k)) s'' := by
  refine ⟨fun k hk => (h'.reachable k hk).trans (h.reachable k hk), fun d hd => ?_⟩
  obtain ⟨d', hd', hle, hkernels⟩ := h.kernels d hd
  obtain ⟨d'', hd'', hle', hkernels'⟩ := h'.kernels d' hd'
  refine ⟨d'', hd'', Nat.le_trans hle hle', fun id k'' hid hk'' => ?_⟩
  obtain ⟨k', hk', rfl⟩ := hkernels' id k'' (Nat.le_trans hid hle) hk''
  obtain ⟨k, hk, rfl⟩ := hkernels id k' hid hk'
  exact ⟨k, hk, rfl⟩

/-- **Between two lines** just those kernels are there that were there before, each as it has
turned. -/
theorem Turns.kernel?_eq (h : s.Turns turn s') (hs : s.Idle) (hs' : s'.Idle) (id : Nat) :
    s'.kernel? id = (s.kernel? id).map (turn id) := by
  -- Between two lines a kernel is there if it is referred to, and that is no other on both sides.
  have hsame : (s'.kernel? id).isSome ↔ (s.kernel? id).isSome := by
    rw [hs.isSome_kernel?_iff, hs'.isSome_kernel?_iff]
    refine exists_congr fun k => ?_
    constructor
    · rintro ⟨hk, hid, hkind⟩
      exact ⟨(h.reachable k hkind).1 hk, hid, hkind⟩
    · rintro ⟨hk, hid, hkind⟩
      exact ⟨(h.reachable k hkind).2 hk, hid, hkind⟩
  cases hk : s.kernel? id with
  | none =>
    rw [hk] at hsame
    rw [Option.map_none, ← Option.not_isSome_iff_eq_none, hsame]
    simp
  | some k =>
    rw [hk] at hsame
    obtain ⟨k', hk'⟩ := Option.isSome_iff_exists.1 (hsame.2 rfl)
    obtain ⟨d, hd, hget⟩ := Option.bind_eq_some_iff.1 hk
    obtain ⟨n, -, hn⟩ := exists_of_driver? hd
    have hid : id ≤ d.lastId := (hs.balanced.sound n d hn).2.1.le_of_kernel hget
    obtain ⟨d', hd', -, hkernels⟩ := h.kernels d hd
    rw [kernel?_of_driver? hd'] at hk'
    obtain ⟨k₁, hk₁, rfl⟩ := hkernels id k' hid hk'
    obtain rfl := Option.some.inj (hget.symm.trans hk₁)
    rw [kernel?_of_driver? hd', hk', Option.map_some]

/-- Where the driver in use is the same, and the same is referred to. -/
theorem turns_of_driver?_eq (hdriver : s'.driver? = s.driver?)
    (hreachable : ∀ h : Handle, h.kind = .kernel → (h ∈ s'.reachable ↔ h ∈ s.reachable)) :
    s.Turns (fun _ k => k) s' :=
  ⟨hreachable, fun d hd =>
    ⟨d, hdriver.trans hd, Nat.le_refl _, fun _ k' _ hk' => ⟨k', hk', rfl⟩⟩⟩

theorem turns_refl (s : Session) : s.Turns (fun _ k => k) s :=
  turns_of_driver?_eq rfl fun _ _ => Iff.rfl

theorem turns_note (s : Session) (e : Event) : s.Turns (fun _ k => k) (s.note e) :=
  turns_of_driver?_eq rfl fun _ _ => Iff.rfl

/-- A driver of which only what is kept is another goes on under its number. -/
theorem exists_driver?_of_pairs {R : State → State → Prop} (hactive : s'.active = s.active)
    (hfleet : Fleet.Pairs R s.fleet s'.fleet) (hd : s.driver? = some d) :
    ∃ d', s'.driver? = some d' ∧ R d d' := by
  obtain ⟨n, hn, hget⟩ := exists_of_driver? hd
  obtain ⟨d', hget', hR⟩ := hfleet.exists_of_left hget
  exact ⟨d', Option.bind_eq_some_iff.2 ⟨n, hactive.trans hn, hget'⟩, hR⟩

/-- Reading turns no kernel. -/
theorem Reads.turns (h : s.Reads s') : s.Turns (fun _ k => k) s' := by
  refine ⟨fun k _ => by rw [h.reachable_eq], fun d hd => ?_⟩
  obtain ⟨d', hd', hintact⟩ := exists_driver?_of_pairs h.active h.intact hd
  refine ⟨d', hd', hintact.lastId_le, fun id k' hid hk' => ⟨k', ?_, rfl⟩⟩
  have hkept := hintact.kept ⟨id, .kernel, none⟩ (.kernel k') hid (State.kept?_kernel_iff.2 hk')
  exact State.kept?_kernel_iff.1 hkept

/-- A call of the driver in use turns the kernels that it keeps. -/
theorem turns_withDriver (hn : s.active = some n) (hd : s.fleet.get? n = some d)
    (hle : d.lastId ≤ d'.lastId)
    (hkernels : ∀ id k', d'.kernels.get? id = some k' →
      ∃ k, d.kernels.get? id = some k ∧ k' = turn id k) : s.Turns turn (s.withDriver n d') := by
  refine ⟨fun _ _ => Iff.rfl, fun d₁ hd₁ => ⟨d', driver?_withDriver hn hd d', ?_⟩⟩
  obtain rfl := Option.some.inj ((driver?_of_active hn hd).symm.trans hd₁)
  exact ⟨hle, fun id k' _ hk' => hkernels id k' hk'⟩

/-- Where arguments were set, one kernel has turned. -/
theorem turns_setArguments (hn : s.active = some n) (hd : s.fleet.get? n = some d)
    (id first : Nat) (arguments : List Argument) :
    s.Turns (fun i k => if i = id then k.setFrom first arguments else k)
      (s.withDriver n (d.setArguments id first arguments)) := by
  refine turns_withDriver hn hd (Nat.le_refl _) fun i k' hk' => ?_
  exact Table.exists_of_get?_modify hk'

/-- **Objects were given** where the line has only read before arguments were set, and nothing has
become of the kernels since. -/
theorem Turns.gaveObjects {kernel : Handle} {first : Nat} {values : List (Token × Entity)}
    {arguments : List Argument} {k : Kernel} (hread : s.Turns (fun _ k => k) read) (hs : s.Idle)
    (hs' : s'.Idle) (hn : read.active = some n) (hd : read.fleet.get? n = some d)
    (hk : d.kernels.get? kernel.id = some k)
    (hfits : Statement.Fits d kernel first values arguments)
    (hafter : (read.withDriver n (d.setArguments kernel.id first arguments)).Turns
      (fun _ k => k) s') :
    s.GaveObjects read s' kernel first (values.map (·.2.object)) k
      (k.setFrom first arguments) := by
  have hdriver : read.driver? = some d := driver?_of_active hn hd
  -- An id of a kernel that was there before is not given to one that the line makes.
  have hbefore : ∀ k₀, s.kernel? kernel.id = some k₀ → k₀ = k := by
    intro k₀ hk₀
    obtain ⟨d₀, hd₀, hget⟩ := Option.bind_eq_some_iff.1 hk₀
    obtain ⟨m, -, hm⟩ := exists_of_driver? hd₀
    have hid : kernel.id ≤ d₀.lastId := (hs.balanced.sound m d₀ hm).2.1.le_of_kernel hget
    obtain ⟨d₁, hd₁, -, hkernels⟩ := hread.kernels d₀ hd₀
    obtain rfl := Option.some.inj (hdriver.symm.trans hd₁)
    obtain ⟨k₁, hk₁, rfl⟩ := hkernels kernel.id k hid hk
    exact Option.some.inj (hget.symm.trans hk₁)
  refine ⟨(kernel?_of_driver? hdriver _).trans hk, hbefore, hfits.receives hk, fun id => ?_⟩
  rw [((hread.trans (turns_setArguments hn hd _ _ _)).trans hafter).kernel?_eq hs hs']
  split
  · next hid =>
    subst hid
    cases hk₀ : s.kernel? kernel.id with
    | none => rfl
    | some k₀ => rw [hbefore k₀ hk₀, Option.map_some, Option.map_some]
  · next hid =>
    cases s.kernel? id with
    | none => rfl
    | some k₀ => rfl

end Session

end DriverBench
