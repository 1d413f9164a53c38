import DriverBench.Proofs.Reading.Run
/-!
# What a driver keeps under a handle

A driver keeps buffers and images in one table, programs in a second and kernels in a third. A
handle names an entry in the table of its kind; the entry of a buffer's handle is no image, and the
other way round. The calls of a driver are described by what they do to these entries: they add one
under a new id (`Creates`), they leave alone what was there (`Intact`, and `Grown` up to the
arguments of kernels), or they leave alone what is alive (`SameLive`).
-/

namespace DriverBench.Device

/-- The kind that stands for a table: buffers and images share one. -/
def HandleKind.table : HandleKind → HandleKind
  | .image => .buffer
  | kind => kind

/-- Where a handle leads to, whatever is there. -/
def Handle.place (h : Handle) : Handle :=
  { h with kind := h.kind.table }

theorem Handle.place_eq_iff {h k : Handle} :
    h.place = k.place ↔ h.id = k.id ∧ h.kind.table = k.kind.table ∧ h.issuer = k.issuer := by
  simp [place]

end DriverBench.Device

namespace DriverBench.Simulator

open Device

/-- What a driver keeps under a handle. -/
inductive Entry where
  | memory (m : Storage)
  | program (p : Program)
  | kernel (k : Kernel)
  deriving DecidableEq, Repr

namespace Entry

/-- The kind of the handles that name an entry. -/
def kind : Entry → HandleKind
  | .memory m => if m.image.isSome then .image else .buffer
  | .program _ => .program
  | .kernel _ => .kernel

/-- Entries that are the same but for the values of a kernel's arguments. -/
def Like : Entry → Entry → Prop
  | .kernel k, .kernel k' => k.name = k'.name ∧ k.slots.length = k'.slots.length
  | x, x' => x = x'

theorem Like.refl (x : Entry) : x.Like x := by
  cases x <;> simp [Like]

theorem Like.trans {x y z : Entry} (h : x.Like y) (h' : y.Like z) : x.Like z := by
  cases x <;> cases y <;> cases z <;> simp_all [Like]

end Entry

namespace State

/-- What is kept under an id in the table of a kind. -/
def lookup (d : State) (kind : HandleKind) (id : Nat) : Option Entry :=
  match kind with
  | .buffer | .image => (d.memories.get? id).map .memory
  | .program => (d.programs.get? id).map .program
  | .kernel => (d.kernels.get? id).map .kernel

/-- What is kept under a handle. -/
def kept? (d : State) (h : Handle) : Option Entry :=
  (d.lookup h.kind h.id).filter (·.kind = h.kind)

/-- The driver with an entry under an id. -/
def put (d : State) (id : Nat) : Entry → State
  | .memory m => { d with memories := d.memories.insert id m }
  | .program p => { d with programs := d.programs.insert id p }
  | .kernel k => { d with kernels := d.kernels.insert id k }

/-- The driver with an entry under the next id. -/
def add (d : State) (x : Entry) : State :=
  { d.put (d.lastId + 1) x with lastId := d.lastId + 1 }

/-- The handle under which the next entry is kept. -/
def nextHandle (d : State) (kind : HandleKind) : Handle :=
  ⟨d.lastId + 1, kind, some d.serial⟩

/-- The driver without what it keeps: its settings, and what it was told to do. -/
def bare (d : State) : State :=
  { d with lastId := 0, memories := {}, programs := {}, kernels := {} }

/-- Nothing is kept under an id that was not given out. -/
def Fresh (d : State) : Prop :=
  ∀ h : Handle, (d.kept? h).isSome → h.id ≤ d.lastId

/-- An id stands for one thing: whatever is kept under it is of one kind. -/
def Apart (d : State) : Prop :=
  ∀ h k : Handle, (d.kept? h).isSome → (d.kept? k).isSome → h.id = k.id → h.kind = k.kind

/-- A table stands for two kinds of handles at most, and is looked up by either. -/
theorem lookup_congr {d : State} {kind kind' : HandleKind} (h : kind.table = kind'.table)
    {id : Nat} : d.lookup kind id = d.lookup kind' id := by
  cases kind <;> cases kind' <;> first | rfl | cases h

/-- An entry is in the table of its own kind. -/
theorem table_eq_of_lookup {d : State} {kind : HandleKind} {id : Nat} {x : Entry}
    (h : d.lookup kind id = some x) : x.kind.table = kind.table := by
  cases kind <;> obtain ⟨y, -, rfl⟩ := Option.map_eq_some_iff.1 h
  case program | kernel => rfl
  all_goals
    rw [Entry.kind]
    split <;> rfl

/-- An entry is kept under the handle of its own kind. -/
theorem kept?_of_lookup {d : State} {kind : HandleKind} {id : Nat} {x : Entry}
    (hx : d.lookup kind id = some x) (issuer : Option Nat) :
    d.kept? ⟨id, x.kind, issuer⟩ = some x := by
  have htable := table_eq_of_lookup hx
  have hown : d.lookup x.kind id = some x := (lookup_congr htable).trans hx
  exact Option.filter_eq_some_iff.2 ⟨hown, by simp⟩

/-- A kernel is kept under the handles of kernels. -/
theorem kept?_kernel_iff {d : State} {id : Nat} {issuer : Option Nat} {k : Kernel} :
    d.kept? ⟨id, .kernel, issuer⟩ = some (.kernel k) ↔ d.kernels.get? id = some k := by
  simp [kept?, lookup, Option.filter_eq_some_iff, Entry.kind]

/-- Kernels are under ids that were given out. -/
theorem Fresh.le_of_kernel {d : State} (hd : d.Fresh) {id : Nat} {k : Kernel}
    (hk : d.kernels.get? id = some k) : id ≤ d.lastId :=
  hd ⟨id, .kernel, none⟩ (by rw [kept?_kernel_iff.2 hk]; rfl)

section OtherTable

variable {d : State} {kind : HandleKind} {id : Nat} {x : Entry}

/-- With another table of memories only memories are others. -/
theorem lookup_memories {memories : Table Storage}
    (h : State.lookup { d with memories } kind id = some x) :
    d.lookup kind id = some x ∨ ∃ e, memories.get? id = some e ∧ x = .memory e := by
  cases kind with
  | program | kernel => exact .inl h
  | buffer | image =>
    obtain ⟨e, he, rfl⟩ := Option.map_eq_some_iff.1 h
    exact .inr ⟨e, he, rfl⟩

/-- With another table of programs only programs are others. -/
theorem lookup_programs {programs : Table Program}
    (h : State.lookup { d with programs } kind id = some x) :
    d.lookup kind id = some x ∨ ∃ p, programs.get? id = some p ∧ x = .program p := by
  cases kind with
  | buffer | image | kernel => exact .inl h
  | program =>
    obtain ⟨p, hp, rfl⟩ := Option.map_eq_some_iff.1 h
    exact .inr ⟨p, hp, rfl⟩

/-- With another table of kernels only kernels are others. -/
theorem lookup_kernels {kernels : Table Kernel}
    (h : State.lookup { d with kernels } kind id = some x) :
    d.lookup kind id = some x ∨ ∃ k, kernels.get? id = some k ∧ x = .kernel k := by
  cases kind with
  | buffer | image | program => exact .inl h
  | kernel =>
    obtain ⟨k, hk, rfl⟩ := Option.map_eq_some_iff.1 h
    exact .inr ⟨k, hk, rfl⟩

end OtherTable

/-- A driver in whose tables nothing is found keeps nothing. -/
theorem liveCount_eq_zero {d : State} (h : ∀ kind id, ¬ (d.lookup kind id).isSome) :
    d.liveCount = 0 := by
  have hm : d.memories.size = 0 := Table.size_eq_zero fun id => by simpa [lookup] using h .buffer id
  have hp : d.programs.size = 0 := Table.size_eq_zero fun id => by
    simpa [lookup] using h .program id
  have hk : d.kernels.size = 0 := Table.size_eq_zero fun id => by simpa [lookup] using h .kernel id
  rw [liveCount, hm, hp, hk]

theorem lookup_put (d : State) (id : Nat) (x : Entry) (kind : HandleKind) (k : Nat) :
    (d.put id x).lookup kind k =
      if k = id ∧ kind.table = x.kind.table then some x else d.lookup kind k := by
  rcases x with ⟨bytes, image⟩ | p | p <;> cases kind <;> try cases image
  all_goals
    by_cases hk : k = id <;>
      simp [put, lookup, Entry.kind, HandleKind.table, Table.get?_insert, hk]

theorem lookup_release (d : State) (h : Handle) (kind : HandleKind) (k : Nat) :
    (d.release h).lookup kind k =
      if k = h.id ∧ kind.table = h.kind.table then none else d.lookup kind k := by
  obtain ⟨id, kind', issuer⟩ := h
  cases kind' <;> cases kind <;> by_cases hk : k = id <;>
    simp [release, lookup, HandleKind.table, Table.get?_erase, hk]

theorem kept?_release (d : State) (h k : Handle) :
    (d.release h).kept? k =
      if k.id = h.id ∧ k.kind.table = h.kind.table then none else d.kept? k := by
  unfold kept?
  rw [lookup_release]
  split <;> rfl

/-- An entry is kept under a handle of its kind only. -/
theorem kind_eq_of_kept? {d : State} {h : Handle} {x : Entry} (hx : d.kept? h = some x) :
    x.kind = h.kind := by
  have := (Option.filter_eq_some_iff.1 hx).2
  simpa using this

/-- Two handles with an entry that lead to one place name one kind. -/
theorem kind_eq_of_table_eq {d : State} {h k : Handle} (hh : (d.kept? h).isSome)
    (hk : (d.kept? k).isSome) (hid : h.id = k.id) (ht : h.kind.table = k.kind.table) :
    h.kind = k.kind := by
  obtain ⟨x, hx⟩ := Option.isSome_iff_exists.1 hh
  obtain ⟨y, hy⟩ := Option.isSome_iff_exists.1 hk
  have hl : d.lookup h.kind h.id = d.lookup k.kind k.id := by
    rw [hid]
    cases h' : h.kind <;> cases k' : k.kind <;> simp_all [HandleKind.table, lookup]
  have hx' := (Option.filter_eq_some_iff.1 hx).1
  have hy' := (Option.filter_eq_some_iff.1 hy).1
  rw [hl, hy'] at hx'
  rw [← kind_eq_of_kept? hx, ← kind_eq_of_kept? hy, Option.some.inj hx']

theorem lookup_add (d : State) (x : Entry) (kind : HandleKind) (k : Nat) :
    (d.add x).lookup kind k =
      if k = d.lastId + 1 ∧ kind.table = x.kind.table then some x else d.lookup kind k :=
  lookup_put d (d.lastId + 1) x kind k

/-- **Adding an entry** puts it under its handle, and changes nothing in another place. -/
theorem kept?_add (d : State) (x : Entry) (k : Handle) :
    (d.add x).kept? k =
      if k.id = d.lastId + 1 ∧ k.kind.table = x.kind.table then
        if x.kind = k.kind then some x else none
      else d.kept? k := by
  unfold kept?
  rw [lookup_add]
  split
  · simp [Option.filter_some]
  · rfl

theorem kept?_add_of_ne (d : State) (x : Entry) {k : Handle} (hk : k.id ≠ d.lastId + 1) :
    (d.add x).kept? k = d.kept? k := by
  rw [kept?_add, if_neg fun h => hk h.1]

/-- Under the next id there is the new entry and nothing else. -/
theorem isSome_kept?_add {d : State} (hd : d.Fresh) (x : Entry) (k : Handle) :
    ((d.add x).kept? k).isSome ↔
      (d.kept? k).isSome ∨ k.id = d.lastId + 1 ∧ k.kind = x.kind := by
  rw [kept?_add]
  by_cases hk : k.id = d.lastId + 1
  · have hnone : ¬ (d.kept? k).isSome := fun h => by
      have := hd k h
      omega
    by_cases ht : x.kind = k.kind
    · simp [hk, ht]
    · have ht' : ¬ k.kind = x.kind := fun h => ht h.symm
      split <;> simp [hnone, ht']
  · simp [hk]

theorem Fresh.add {d : State} (hd : d.Fresh) (x : Entry) : (d.add x).Fresh := by
  intro k hk
  rcases (isSome_kept?_add hd x k).1 hk with hk | ⟨hid, -⟩
  · exact Nat.le_succ_of_le (hd k hk)
  · exact Nat.le_of_eq hid

theorem lastId_release (d : State) (h : Handle) : (d.release h).lastId = d.lastId := by
  unfold release
  split <;> rfl

theorem Fresh.release {d : State} (hd : d.Fresh) (h : Handle) : (d.release h).Fresh := by
  intro k hk
  rw [kept?_release] at hk
  rw [lastId_release]
  split at hk
  · cases hk
  · exact hd k hk

theorem Apart.add {d : State} (hd : d.Apart) (hfresh : d.Fresh) (x : Entry) :
    (d.add x).Apart := by
  intro h k hh hk hid
  rcases (isSome_kept?_add hfresh x h).1 hh with hh | ⟨hh, hkind⟩
  · rcases (isSome_kept?_add hfresh x k).1 hk with hk | ⟨hk, -⟩
    · exact hd h k hh hk hid
    · have := hfresh h hh
      omega
  · rcases (isSome_kept?_add hfresh x k).1 hk with hk | ⟨-, hkind'⟩
    · have := hfresh k hk
      omega
    · exact hkind.trans hkind'.symm

theorem Apart.release {d : State} (hd : d.Apart) (h : Handle) : (d.release h).Apart := by
  have hless : ∀ k, ((d.release h).kept? k).isSome → (d.kept? k).isSome := fun k hk => by
    rw [kept?_release] at hk
    split at hk
    · cases hk
    · exact hk
  exact fun j k hj hk hid => hd j k (hless j hj) (hless k hk) hid

/-- Memory is under an id that was given out. -/
theorem Fresh.le_of_memory {d : State} (hd : d.Fresh) {id : Nat} {e : Storage}
    (he : d.memories.get? id = some e) : id ≤ d.lastId := by
  have hx : d.lookup .buffer id = some (.memory e) := by rw [lookup, he, Option.map_some]
  exact hd _ (by rw [kept?_of_lookup hx none]; rfl)

end State

end DriverBench.Simulator
