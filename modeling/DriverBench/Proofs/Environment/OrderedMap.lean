import DriverBench.Environment
import Mathlib.Data.List.Dedup
import Mathlib.Data.List.Nodup
/-!
# The environment as an ordered map

A table of bindings is one way to keep a map whose names have an order. Here the map is given for
itself (`OrderedMap`): a list of names, and what each name is bound to. A table *represents* a map
if the two have the same names in the same order, no name twice, and bind each name to the same
(`Environment.Represents`). Every operation on the table then answers what the map answers, and
leads to a table that represents what the map becomes (`Represents.perform`); so the two cannot be
told apart by operations, whatever their number (`Represents.performAll`).
-/

namespace DriverBench

variable {α : Type}

/-! ## The map -/

/-- A map whose names have an order, oldest first. -/
structure OrderedMap (α : Type) where
  order : List String := []
  value : String → Option α := fun _ => none

namespace OrderedMap

/-- Binds a new name, behind all the others. -/
def insert (m : OrderedMap α) (name : String) (a : α) : Except BindingError (OrderedMap α) :=
  if name ∈ m.order then .error (.alreadyBound name)
  else .ok ⟨m.order ++ [name], fun n => if n = name then some a else m.value n⟩

/-- The map without some of its names. The others stay in their order. -/
def without (m : OrderedMap α) (gone : String → Bool) : OrderedMap α :=
  ⟨m.order.filter fun n => !gone n, fun n => if gone n then none else m.value n⟩

/-- Takes the listed names out, each of them once however often it is listed; or none of them, if
one is not bound. -/
def release (m : OrderedMap α) (names : List String) : Except BindingError (Nat × OrderedMap α) :=
  match names.find? fun n => n ∉ m.order with
  | some missing => .error (.notFound missing)
  | none => .ok (names.dedup.length, m.without fun n => n ∈ names)

/-- Takes the names out that are bound to something of a kind. -/
def clearWhere (m : OrderedMap α) (p : α → Bool) : Nat × OrderedMap α :=
  let gone n := (m.value n).any p
  (m.order.countP gone, m.without gone)

/-- The names in their order, with what they are bound to. -/
def listing (m : OrderedMap α) : List (String × α) :=
  m.order.filterMap fun n => (m.value n).map (n, ·)

end OrderedMap

/-! ## Operations -/

/-- What a table of bindings can be asked for. -/
inductive BindingOperation (α : Type) where
  | insert (name : String) (a : α)
  | lookup (name : String)
  | contains (name : String)
  | release (names : List String)
  | clearWhere (p : α → Bool)
  | list

/-- What an operation answers. -/
inductive BindingAnswer (α : Type) where
  | inserted (result : Except BindingError Unit)
  | found (a : Option α)
  | contained (b : Bool)
  | released (result : Except BindingError Nat)
  | cleared (count : Nat)
  | listed (bindings : List (String × α))

namespace BindingAnswer

/-- What an insertion answers. One that fails changes nothing. -/
def ofInsertion {S : Type} (s : S) : Except BindingError S → BindingAnswer α × S
  | .ok s' => (.inserted (.ok ()), s')
  | .error e => (.inserted (.error e), s)

/-- What a release answers. One that fails changes nothing. -/
def ofRelease {S : Type} (s : S) : Except BindingError (Nat × S) → BindingAnswer α × S
  | .ok (count, s') => (.released (.ok count), s')
  | .error e => (.released (.error e), s)

end BindingAnswer

/-- An operation on a table of bindings. -/
def Environment.perform (env : Environment α) : BindingOperation α → BindingAnswer α × Environment α
  | .insert name a => BindingAnswer.ofInsertion env (env.insert name a)
  | .lookup name => (.found (env.lookup name), env)
  | .contains name => (.contained (env.contains name), env)
  | .release names => BindingAnswer.ofRelease env (env.release names)
  | .clearWhere p => (.cleared (env.clearWhere p).1, (env.clearWhere p).2)
  | .list => (.listed env.bindings, env)

/-- An operation on a map. -/
def OrderedMap.perform (m : OrderedMap α) : BindingOperation α → BindingAnswer α × OrderedMap α
  | .insert name a => BindingAnswer.ofInsertion m (m.insert name a)
  | .lookup name => (.found (m.value name), m)
  | .contains name => (.contained (name ∈ m.order), m)
  | .release names => BindingAnswer.ofRelease m (m.release names)
  | .clearWhere p => (.cleared (m.clearWhere p).1, (m.clearWhere p).2)
  | .list => (.listed m.listing, m)

/-- The answers to operations one after another, and what they lead to. -/
def performAll {S : Type} (perform : S → BindingOperation α → BindingAnswer α × S) (s : S) :
    List (BindingOperation α) → List (BindingAnswer α) × S
  | [] => ([], s)
  | o :: os =>
    let (answer, s') := perform s o
    let (answers, s'') := performAll perform s' os
    (answer :: answers, s'')

namespace Environment

/-! ## Looking up -/

section Lookup

variable {env : Environment α} {name : String} {a : α}

theorem contains_iff : env.contains name = true ↔ name ∈ env.names := by
  simp [contains, names]

/-- Where no name stands twice, a name is bound to what stands beside it. -/
theorem lookup_eq_some_iff (h : env.names.Nodup) :
    env.lookup name = some a ↔ (name, a) ∈ env.bindings := by
  constructor
  · intro hl
    obtain ⟨⟨n, a'⟩, hb, rfl⟩ := Option.map_eq_some_iff.1 hl
    obtain rfl : n = name := by simpa using List.find?_some hb
    exact List.mem_of_find?_eq_some hb
  · intro hmem
    have hfound : (env.bindings.find? fun b => b.1 == name).isSome :=
      List.find?_isSome.2 ⟨(name, a), hmem, by simp⟩
    obtain ⟨⟨n, a'⟩, hb⟩ := Option.isSome_iff_exists.1 hfound
    obtain rfl : n = name := by simpa using List.find?_some hb
    have hsame := List.inj_on_of_nodup_map h (List.mem_of_find?_eq_some hb) hmem rfl
    rw [lookup, hb, Option.map_some, (Prod.mk.inj hsame).2]

/-- Where no name stands twice, the table is its names with what they are bound to. -/
theorem bindings_eq_filterMap (h : env.names.Nodup) :
    env.bindings = env.names.filterMap fun n => (env.lookup n).map (n, ·) := by
  rw [names, List.filterMap_map]
  refine ((List.filterMap_congr fun b hb => ?_).trans (List.filterMap_some)).symm
  change (env.lookup b.1).map (b.1, ·) = some b
  rw [(lookup_eq_some_iff h).2 hb]
  rfl

/-- What is taken out leaves no name twice where there was none. -/
theorem nodup_keep (h : env.names.Nodup) (p : String × α → Bool) : (env.keep p).names.Nodup :=
  h.sublist (List.filter_sublist.map Prod.fst)

theorem names_append (env : Environment α) (name : String) (a : α) :
    names ⟨env.bindings ++ [(name, a)]⟩ = env.names ++ [name] :=
  List.map_append

theorem nodup_append (h : env.names.Nodup) (hn : name ∉ env.names) (a : α) :
    (names ⟨env.bindings ++ [(name, a)]⟩).Nodup := by
  rw [names_append]
  refine List.nodup_append.2 ⟨h, List.nodup_singleton name, fun n hmem n' hnew heq => ?_⟩
  obtain rfl := List.mem_singleton.1 hnew
  exact hn (heq ▸ hmem)

/-- An insertion that goes through leaves no name twice where there was none. -/
theorem nodup_insert {env' : Environment α} (h : env.names.Nodup)
    (hi : env.insert name a = .ok env') : env'.names.Nodup := by
  unfold insert at hi
  split at hi
  · cases hi
  · next hnot =>
    obtain rfl := Except.ok.inj hi
    exact nodup_append h (fun hmem => hnot (contains_iff.2 hmem)) a

/-- What is gone behind taking bindings out is counted by them. -/
theorem size_sub_size_keep (env : Environment α) (p : String × α → Bool) :
    env.size - (env.keep p).size = env.bindings.countP fun b => !p b := by
  have hsplit := List.length_eq_countP_add_countP p (l := env.bindings)
  rw [size, size, keep, ← List.countP_eq_length_filter]
  simp only [Bool.not_eq_true, Bool.decide_eq_false] at hsplit
  omega

end Lookup

/-! ## Tables and maps -/

/-- A table represents a map: they have the same names in the same order, no name twice, and each
name is bound to the same. -/
structure Represents (env : Environment α) (m : OrderedMap α) : Prop where
  names : env.names = m.order
  nodup : env.names.Nodup
  lookup : ∀ n, env.lookup n = m.value n

namespace Represents

variable {env env' : Environment α} {m : OrderedMap α}

theorem empty : Represents ({} : Environment α) {} :=
  ⟨rfl, List.nodup_nil, fun _ => rfl⟩

theorem mem_bindings (h : env.Represents m) {n : String} {a : α} :
    (n, a) ∈ env.bindings ↔ m.value n = some a := by
  rw [← lookup_eq_some_iff h.nodup, h.lookup]

theorem contains (h : env.Represents m) (n : String) : env.contains n = decide (n ∈ m.order) := by
  rw [Bool.eq_iff_iff, contains_iff, h.names, decide_eq_true_iff]

theorem bindings (h : env.Represents m) : env.bindings = m.listing := by
  rw [bindings_eq_filterMap h.nodup, h.names, OrderedMap.listing]
  simp only [h.lookup]

/-- A new name stands behind the others, in the table and in the map. -/
theorem append (h : env.Represents m) {name : String} (hn : name ∉ m.order) (a : α) :
    Represents ⟨env.bindings ++ [(name, a)]⟩
      ⟨m.order ++ [name], fun n => if n = name then some a else m.value n⟩ := by
  have hnodup := nodup_append h.nodup (h.names ▸ hn) a
  refine ⟨by rw [names_append, h.names], hnodup, fun n => Option.ext fun a' => ?_⟩
  rw [lookup_eq_some_iff hnodup, List.mem_append, h.mem_bindings, List.mem_singleton,
    Prod.mk.injEq]
  dsimp only
  by_cases heq : n = name
  · -- The name was bound to nothing.
    have hnone : m.value name = none := by
      rw [← h.lookup, Environment.lookup, Option.map_eq_none_iff, List.find?_eq_none]
      rintro b hb hname
      rw [← h.names] at hn
      exact hn (List.mem_map.2 ⟨b, hb, by simpa using hname⟩)
    simp [heq, hnone, eq_comm]
  · simp [heq]

/-- Bindings are taken out of the table as names are out of the map. -/
theorem keep (h : env.Represents m) {p : String × α → Bool} {gone : String → Bool}
    (hp : ∀ n a, m.value n = some a → p (n, a) = !gone n) :
    Represents (env.keep p) (m.without gone) := by
  have hnames : (env.keep p).names = env.names.filter fun n => !gone n := by
    rw [Environment.names, Environment.keep, Environment.names, List.filter_map]
    exact congrArg (List.map Prod.fst)
      (List.filter_congr fun b hb => hp b.1 b.2 (h.mem_bindings.1 hb))
  have hnodup := nodup_keep h.nodup p
  refine ⟨by rw [hnames, h.names, OrderedMap.without], hnodup, fun n => Option.ext fun a => ?_⟩
  rw [lookup_eq_some_iff hnodup, Environment.keep, List.mem_filter, h.mem_bindings,
    OrderedMap.without]
  dsimp only
  cases hg : gone n with
  | true => simpa [hg] using fun hv => hp n a hv
  | false => simpa [hg] using fun hv => hp n a hv

theorem size_sub_size_keep (h : env.Represents m) {p : String × α → Bool} {gone : String → Bool}
    (hp : ∀ n a, m.value n = some a → p (n, a) = !gone n) :
    env.size - (env.keep p).size = m.order.countP gone := by
  rw [Environment.size_sub_size_keep, ← h.names, Environment.names, List.countP_map]
  refine List.countP_congr fun b hb => ?_
  rw [hp b.1 b.2 (h.mem_bindings.1 hb), Bool.not_not, Function.comp_apply]

/-- Names that are all bound are as many bindings as there are distinct ones among them. -/
theorem countP_mem (h : env.Represents m) {names : List String} (hall : ∀ n ∈ names, n ∈ m.order) :
    m.order.countP (fun n => n ∈ names) = names.dedup.length := by
  have hnodup : m.order.Nodup := h.names ▸ h.nodup
  rw [List.countP_eq_length_filter]
  refine ((List.perm_ext_iff_of_nodup (hnodup.filter _) (List.nodup_dedup names)).2
    fun n => ?_).length_eq
  rw [List.mem_filter, List.mem_dedup, decide_eq_true_iff]
  exact ⟨And.right, fun hmem => ⟨hall n hmem, hmem⟩⟩

/-! ## Operations on both -/

/-- What both sides have come to: the same answer, and again a table that represents a map. -/
def Agree (x : BindingAnswer α × Environment α) (y : BindingAnswer α × OrderedMap α) : Prop :=
  x.1 = y.1 ∧ x.2.Represents y.2

theorem insert (h : env.Represents m) (name : String) (a : α) :
    Agree (BindingAnswer.ofInsertion env (env.insert name a))
      (BindingAnswer.ofInsertion m (m.insert name a)) := by
  unfold Environment.insert OrderedMap.insert
  rw [h.contains]
  by_cases hn : name ∈ m.order
  · simp only [hn, decide_true, if_true]
    exact ⟨rfl, h⟩
  · simp only [hn, decide_false, if_false, Bool.false_eq_true]
    exact ⟨rfl, h.append hn a⟩

theorem release (h : env.Represents m) (names : List String) :
    Agree (BindingAnswer.ofRelease env (env.release names))
      (BindingAnswer.ofRelease m (m.release names)) := by
  have hmissing : (names.find? fun n => !env.contains n) = names.find? fun n => n ∉ m.order := by
    simp only [h.contains, decide_not]
  unfold Environment.release OrderedMap.release
  rw [hmissing]
  cases hfind : names.find? fun n => n ∉ m.order with
  | some missing => exact ⟨rfl, h⟩
  | none =>
    have hall : ∀ n ∈ names, n ∈ m.order := by simpa using hfind
    have hp : ∀ n (a : α), m.value n = some a →
        (!names.contains (n, a).1) = !decide (n ∈ names) := fun n a _ => by
      rw [List.contains_eq_mem]
    refine ⟨congrArg (fun count => BindingAnswer.released (.ok count)) ?_, h.keep hp⟩
    exact (h.size_sub_size_keep hp).trans (h.countP_mem hall)

theorem clearWhere (h : env.Represents m) (p : α → Bool) :
    (env.clearWhere p).1 = (m.clearWhere p).1 ∧
      (env.clearWhere p).2.Represents (m.clearWhere p).2 := by
  have hp : ∀ n a, m.value n = some a → (!p (n, a).2) = !(m.value n).any p := fun n a hv => by
    rw [hv, Option.any_some]
  exact ⟨h.size_sub_size_keep hp, h.keep hp⟩

/-- **One operation**: a table answers what the map answers that it represents, and goes on to
represent it. -/
theorem perform (h : env.Represents m) (o : BindingOperation α) :
    Agree (env.perform o) (m.perform o) := by
  cases o with
  | insert name a => exact h.insert name a
  | lookup name => exact ⟨congrArg BindingAnswer.found (h.lookup name), h⟩
  | contains name => exact ⟨congrArg BindingAnswer.contained (h.contains name), h⟩
  | release names => exact h.release names
  | clearWhere p =>
    obtain ⟨hcount, hrest⟩ := h.clearWhere p
    exact ⟨congrArg BindingAnswer.cleared hcount, hrest⟩
  | list => exact ⟨congrArg BindingAnswer.listed h.bindings, h⟩

/-- **Any number of operations**, by induction on them. -/
theorem performAll (h : env.Represents m) (os : List (BindingOperation α)) :
    (performAll Environment.perform env os).1 = (performAll OrderedMap.perform m os).1 ∧
      (performAll Environment.perform env os).2.Represents
        (performAll OrderedMap.perform m os).2 := by
  induction os generalizing env m with
  | nil => exact ⟨rfl, h⟩
  | cons o os ih =>
    obtain ⟨hanswer, hnext⟩ := h.perform o
    obtain ⟨hanswers, hlast⟩ := ih hnext
    exact ⟨congrArg₂ List.cons hanswer hanswers, hlast⟩

end Represents

end Environment

end DriverBench
