/-!
# Tables with numbers as keys

A finite map from numbers, as a list of entries. The view is `get?`; every operation says what it
does to it.
-/

namespace DriverBench

/-- A finite map from numbers. -/
structure Table (α : Type) where
  entries : List (Nat × α) := []
  deriving Repr

namespace Table

variable {α : Type}

/-- What is kept under a key. -/
def get? (t : Table α) (key : Nat) : Option α :=
  t.entries.lookup key

/-- Whether there is an entry under a key. -/
def contains (t : Table α) (key : Nat) : Bool :=
  (t.get? key).isSome

/-- The keys that have an entry. -/
def keys (t : Table α) : List Nat :=
  t.entries.map Prod.fst

/-- The number of entries. -/
def size (t : Table α) : Nat :=
  t.entries.length

/-- The table without the entry of a key. -/
def erase (t : Table α) (key : Nat) : Table α :=
  ⟨t.entries.filter fun e => e.1 != key⟩

/-- The table with a value under a key, in place of what was there. -/
def insert (t : Table α) (key : Nat) (value : α) : Table α :=
  ⟨(t.erase key).entries ++ [(key, value)]⟩

/-- The table with the value of a key changed, if there is one. -/
def modify (t : Table α) (key : Nat) (f : α → α) : Table α :=
  ⟨t.entries.map fun e => if e.1 = key then (e.1, f e.2) else e⟩

/-- A table in which nothing is found is empty. -/
theorem size_eq_zero {t : Table α} (h : ∀ key, t.get? key = none) : t.size = 0 := by
  obtain ⟨_ | ⟨⟨key, a⟩, rest⟩⟩ := t
  · rfl
  · have := h key
    simp [get?] at this

theorem get?_erase (t : Table α) (key k : Nat) :
    (t.erase key).get? k = if k = key then none else t.get? k := by
  obtain ⟨entries⟩ := t
  simp only [get?, erase]
  induction entries with
  | nil => simp
  | cons e rest ih =>
    obtain ⟨i, a⟩ := e
    by_cases hi : i = key
    · subst hi
      by_cases hk : k = i
      · subst hk
        simpa [List.filter] using ih
      · have : (k == i) = false := by simpa using hk
        simpa [List.filter, List.lookup_cons, this, hk] using ih
    · have hd : (i != key) = true := by simpa using hi
      rw [List.filter_cons, if_pos hd]
      by_cases hk : k = i
      · subst hk
        simp [hi]
      · have : (k == i) = false := by simpa using hk
        simpa [List.lookup_cons, this] using ih

theorem get?_insert (t : Table α) (key : Nat) (value : α) (k : Nat) :
    (t.insert key value).get? k = if k = key then some value else t.get? k := by
  have h := get?_erase t key k
  simp only [get?] at h
  simp only [get?, insert, List.lookup_append, h]
  by_cases hk : k = key
  · subst hk
    simp
  · have : (k == key) = false := by simpa using hk
    simp [List.lookup_cons, this, hk]

theorem get?_modify (t : Table α) (key : Nat) (f : α → α) (k : Nat) :
    (t.modify key f).get? k = if k = key then (t.get? k).map f else t.get? k := by
  obtain ⟨entries⟩ := t
  simp only [get?, modify]
  induction entries with
  | nil => simp
  | cons e rest ih =>
    obtain ⟨i, a⟩ := e
    by_cases hk : k = i
    · subst hk
      by_cases hi : k = key <;> simp [hi]
    · have : (k == i) = false := by simpa using hk
      by_cases hi : i = key
      · subst hi
        simpa [List.lookup_cons, this] using ih
      · simpa [List.lookup_cons, this, hi] using ih

/-- What is found after a change was there before, and was changed if it is under the key. -/
theorem exists_of_get?_modify {t : Table α} {key : Nat} {f : α → α} {k : Nat} {b : α}
    (h : (t.modify key f).get? k = some b) :
    ∃ a, t.get? k = some a ∧ b = if k = key then f a else a := by
  rw [get?_modify] at h
  split at h
  · next hk =>
    obtain ⟨a, ha, rfl⟩ := Option.map_eq_some_iff.1 h
    exact ⟨a, ha, by rw [if_pos hk]⟩
  · next hk => exact ⟨b, h, by rw [if_neg hk]⟩

/-- No key has two entries. -/
def Distinct (t : Table α) : Prop :=
  t.keys.Nodup

theorem keys_modify (t : Table α) (key : Nat) (f : α → α) : (t.modify key f).keys = t.keys := by
  unfold keys modify
  rw [List.map_map]
  refine List.map_congr_left fun e _ => ?_
  dsimp only [Function.comp]
  split <;> rfl

theorem distinct_erase {t : Table α} (h : t.Distinct) (key : Nat) : (t.erase key).Distinct :=
  h.sublist (List.filter_sublist.map Prod.fst)

theorem distinct_insert {t : Table α} (h : t.Distinct) (key : Nat) (value : α) :
    (t.insert key value).Distinct := by
  have hgone : key ∉ (t.erase key).keys := by simp [keys, erase]
  have hkeys : (t.insert key value).keys = (t.erase key).keys ++ [key] := by simp [keys, insert]
  rw [Distinct, hkeys, List.nodup_append]
  refine ⟨distinct_erase h key, by simp, fun k hk k' hk' heq => ?_⟩
  obtain rfl := List.mem_singleton.1 hk'
  exact hgone (heq ▸ hk)

theorem distinct_modify {t : Table α} (h : t.Distinct) (key : Nat) (f : α → α) :
    (t.modify key f).Distinct := by
  rwa [Distinct, keys_modify]

/-- Every entry is the one that is found under its key. -/
theorem get?_of_mem {t : Table α} (h : t.Distinct) {key : Nat} {a : α}
    (he : (key, a) ∈ t.entries) : t.get? key = some a := by
  obtain ⟨entries⟩ := t
  simp only [Distinct, keys] at h
  simp only [get?]
  induction entries with
  | nil => cases he
  | cons first rest ih =>
    obtain ⟨hfirst, hrest⟩ := List.nodup_cons.1 h
    rcases List.mem_cons.1 he with rfl | he
    · exact List.lookup_cons_self
    · have hne : (key == first.1) = false := by
        rw [beq_eq_false_iff_ne]
        exact fun heq => hfirst (heq ▸ List.mem_map_of_mem he)
      rw [List.lookup_cons, hne]
      exact ih hrest he

/-- A change that leaves the value of its key alone leaves the table alone. -/
theorem modify_eq_self {t : Table α} (h : t.Distinct) {key : Nat} {f : α → α}
    (hf : ∀ a, t.get? key = some a → f a = a) : t.modify key f = t := by
  have hentries : t.entries.map (fun e => if e.1 = key then (e.1, f e.2) else e) = t.entries := by
    refine (List.map_congr_left fun e he => ?_).trans (List.map_id _)
    split
    · next hkey => rw [hf e.2 (hkey ▸ get?_of_mem h he), id]
    · rfl
  rw [modify, hentries]

/-- Two changes of one value are one change. -/
theorem modify_modify (t : Table α) (key : Nat) (f g : α → α) :
    (t.modify key f).modify key g = t.modify key fun a => g (f a) := by
  simp only [modify, List.map_map, mk.injEq]
  refine List.map_congr_left fun e _ => ?_
  by_cases he : e.1 = key
  · simp [he]
  · simp [he]

end Table

end DriverBench
