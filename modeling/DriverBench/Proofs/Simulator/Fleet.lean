import DriverBench.Proofs.Simulator.Calls
/-!
# What the drivers of a fleet keep

A handle names its issuer, so a fleet has at most one entry under a handle. Releasing a handle takes
away what is in its place, and a call changes the one driver it is made of. Relations between
drivers become relations between fleets driver by driver (`Pairs`).
-/

namespace DriverBench.Simulator

open Device

namespace Fleet

/-- What the issuer of a handle keeps under it. -/
def kept? (f : Fleet) (h : Handle) : Option Entry :=
  (h.issuer.bind f.get?).bind (·.kept? h)

/-- Every driver knows its own number, keeps nothing under an id that it did not give out, and no
two things under one id. -/
def Sound (f : Fleet) : Prop :=
  ∀ n d, f.get? n = some d → d.serial = n ∧ d.Fresh ∧ d.Apart

/-- The drivers of two fleets are related one by one. -/
def Pairs (R : State → State → Prop) (f f' : Fleet) : Prop :=
  ∀ n, Option.Rel R (f.get? n) (f'.get? n)

theorem ext_get? {f f' : Fleet} (h : ∀ n, f.get? n = f'.get? n) : f = f' := by
  obtain ⟨drivers⟩ := f
  obtain ⟨drivers'⟩ := f'
  exact congrArg Fleet.mk (List.ext_getElem? h)

theorem get?_modify (f : Fleet) (n : Nat) (g : State → State) (k : Nat) :
    (f.modify n g).get? k = if k = n then (f.get? k).map g else f.get? k := by
  simp only [get?, modify, List.getElem?_modify]
  by_cases hk : k = n
  · subst hk
    simp
  · have hk' : ¬ n = k := fun h => hk h.symm
    simp [hk, hk']

theorem get?_start (f : Fleet) (n : Nat) :
    f.start.2.get? n =
      if n = f.drivers.length then some { serial := n } else f.get? n := by
  simp only [get?, start]
  by_cases hn : n = f.drivers.length
  · subst hn
    simp
  · rw [if_neg hn]
    by_cases hlt : n < f.drivers.length
    · rw [List.getElem?_append_left hlt]
    · rw [List.getElem?_eq_none (by simp; omega), List.getElem?_eq_none (by omega)]

section Pairs

variable {R : State → State → Prop}

theorem Pairs.exists_of_left {f f' : Fleet} (h : Pairs R f f') {n : Nat} {d : State}
    (hd : f.get? n = some d) : ∃ d', f'.get? n = some d' ∧ R d d' := by
  have hn := h n
  rw [hd] at hn
  generalize f'.get? n = o at hn ⊢
  cases hn with
  | some hR => exact ⟨_, rfl, hR⟩

theorem Pairs.exists_of_right {f f' : Fleet} (h : Pairs R f f') {n : Nat} {d' : State}
    (hd : f'.get? n = some d') : ∃ d, f.get? n = some d ∧ R d d' := by
  have hn := h n
  rw [hd] at hn
  generalize f.get? n = o at hn ⊢
  cases hn with
  | some hR => exact ⟨_, rfl, hR⟩

theorem Pairs.mono {R' : State → State → Prop} {f f' : Fleet} (h : Pairs R f f')
    (hR : ∀ d d', R d d' → R' d d') : Pairs R' f f' := by
  intro n
  have hn := h n
  generalize f.get? n = o, f'.get? n = o' at hn ⊢
  cases hn with
  | none => exact .none
  | some hdd => exact .some (hR _ _ hdd)

variable [Frame R]

instance : Frame (Pairs R) where
  refl f n := by
    cases f.get? n with
    | none => exact .none
    | some d => exact .some (Frame.refl d)
  trans {a b c} h h' n := by
    cases hb : b.get? n with
    | none =>
      have h₁ := h n
      have h₂ := h' n
      rw [hb] at h₁ h₂
      generalize a.get? n = o, c.get? n = o' at h₁ h₂ ⊢
      cases h₁
      cases h₂
      exact .none
    | some d =>
      obtain ⟨d₁, h₁, hR₁⟩ := h.exists_of_right hb
      obtain ⟨d₂, h₂, hR₂⟩ := h'.exists_of_left hb
      rw [h₁, h₂]
      exact .some (Frame.trans hR₁ hR₂)

omit [Frame R] in
/-- Fleets whose drivers are related one by one are of one size. -/
theorem Pairs.length_eq {f f' : Fleet} (h : Pairs R f f') :
    f'.drivers.length = f.drivers.length := by
  have hend : ∀ n, f'.drivers.length ≤ n ↔ f.drivers.length ≤ n := by
    intro n
    rw [← List.getElem?_eq_none_iff, ← List.getElem?_eq_none_iff]
    have hn := h n
    unfold get? at hn
    generalize f.drivers[n]? = o, f'.drivers[n]? = o' at hn ⊢
    cases hn <;> simp
  have hle := hend f.drivers.length
  have hge := hend f'.drivers.length
  omega

omit [Frame R] in
/-- A driver that is put in place of another one. -/
theorem Pairs.modify {f f' : Fleet} (h : Pairs R f f') {n : Nat} {d : State}
    (hd : ∀ d₀, f.get? n = some d₀ → R d₀ d) : Pairs R f (f'.modify n fun _ => d) := by
  intro k
  rw [get?_modify]
  split
  · next hk =>
    subst hk
    have hk := h k
    cases h₀ : f.get? k with
    | none =>
      rw [h₀] at hk
      generalize f'.get? k = o at hk ⊢
      cases hk
      exact .none
    | some d₀ =>
      obtain ⟨d₁, h₁, -⟩ := h.exists_of_left h₀
      rw [h₁]
      exact .some (hd d₀ h₀)
  · exact h k

/-- A change of one driver. -/
theorem pairs_modify {f : Fleet} {n : Nat} {g : State → State}
    (h : ∀ d, f.get? n = some d → R d (g d)) : Pairs R f (f.modify n g) := by
  intro k
  rw [get?_modify]
  split
  · next hk =>
    subst hk
    cases hd : f.get? k with
    | none => exact .none
    | some d => exact .some (h d hd)
  · exact Frame.refl (R := Pairs R) f k

end Pairs

theorem pairs_release (f : Fleet) (h : Handle) : Pairs State.Fades f (f.release h) := by
  unfold release
  split
  · exact pairs_modify fun d _ => d.fades_release h
  · exact Frame.refl f

/-- Releasing a handle empties its place and no other. -/
theorem kept?_release (f : Fleet) (h k : Handle) :
    (f.release h).kept? k = if k.place = h.place then none else f.kept? k := by
  have hplace := Handle.place_eq_iff (h := k) (k := h)
  unfold release kept?
  cases hi : h.issuer with
  | none =>
    by_cases heq : k.place = h.place
    · rw [if_pos heq, (hplace.1 heq).2.2, hi]
      rfl
    · rw [if_neg heq]
  | some n =>
    cases hk : k.issuer with
    | none =>
      rw [if_neg fun heq => by rw [(hplace.1 heq).2.2, hi] at hk; cases hk]
      rfl
    | some m =>
      simp only [Option.bind_some, get?_modify]
      by_cases hm : m = n
      · subst hm
        rw [if_pos rfl]
        cases f.get? m with
        | none => simp
        | some d =>
          simp only [Option.map_some, Option.bind_some, State.kept?_release]
          have : k.place = h.place ↔ k.id = h.id ∧ k.kind.table = h.kind.table := by
            rw [hplace, hi, hk]
            simp
          simp [this]
      · rw [if_neg hm, if_neg fun heq => hm (by
          have := (hplace.1 heq).2.2
          rw [hi, hk] at this
          exact Option.some.inj this)]

/-- The same handles have an entry in fleets of drivers that keep the same alive. -/
theorem Pairs.isSome_kept? {f f' : Fleet} (h : Pairs State.SameLive f f') (k : Handle) :
    (f'.kept? k).isSome ↔ (f.kept? k).isSome := by
  unfold kept?
  cases k.issuer with
  | none => exact Iff.rfl
  | some n =>
    simp only [Option.bind_some]
    have hn := h n
    generalize f.get? n = o, f'.get? n = o' at hn ⊢
    cases hn with
    | none => exact Iff.rfl
    | some hd => exact hd.live k

theorem Sound.pairs {f f' : Fleet} (hf : f.Sound) (h : Pairs State.SameLive f f') : f'.Sound := by
  intro n d' hd'
  obtain ⟨d, hd, hdd⟩ := h.exists_of_right hd'
  obtain ⟨hs, hfresh, hapart⟩ := hf n d hd
  exact ⟨hdd.serial.trans hs, hdd.fresh hfresh, hdd.apart hapart⟩

theorem Sound.release {f : Fleet} (hf : f.Sound) (h : Handle) : (f.release h).Sound := by
  unfold Fleet.release
  cases h.issuer with
  | none => exact hf
  | some n =>
    intro m d' hd'
    simp only [get?_modify] at hd'
    split at hd'
    · obtain ⟨d, hd, rfl⟩ := Option.map_eq_some_iff.1 hd'
      obtain ⟨hserial, hfresh, hapart⟩ := hf m d hd
      exact ⟨(State.serial_eq_of_bare (d.fades_release h).bare).trans hserial,
        hfresh.release h, hapart.release h⟩
    · exact hf m d' hd'

/-- An entry is under a handle whose issuer keeps it. -/
theorem exists_of_isSome {f : Fleet} {h : Handle} (hh : (f.kept? h).isSome) :
    ∃ n d, h.issuer = some n ∧ f.get? n = some d ∧ (d.kept? h).isSome := by
  unfold kept? at hh
  cases hi : h.issuer with
  | none => simp [hi] at hh
  | some n =>
    cases hd : f.get? n with
    | none => simp [hi, hd] at hh
    | some d => exact ⟨n, d, rfl, hd, by simpa [hi, hd] using hh⟩

theorem kept?_eq {f : Fleet} {h : Handle} {n : Nat} {d : State} (hi : h.issuer = some n)
    (hd : f.get? n = some d) : f.kept? h = d.kept? h := by
  simp [kept?, hi, hd]

/-- Handles with an entry that lead to one place are the same. -/
theorem eq_of_place_eq {f : Fleet} {h k : Handle} (hh : (f.kept? h).isSome)
    (hk : (f.kept? k).isSome) (hp : h.place = k.place) : h = k := by
  obtain ⟨hid, ht, hi⟩ := Handle.place_eq_iff.1 hp
  obtain ⟨n, d, hn, hd, hdh⟩ := exists_of_isSome hh
  have hdk : (d.kept? k).isSome := by
    rwa [kept?_eq (hi ▸ hn) hd] at hk
  -- A place leaves the kind of memory open, and the entry in it settles it.
  have hkind := State.kind_eq_of_table_eq hdh hdk hid ht
  cases h
  cases k
  simp_all

/-- **A driver that adds an entry** makes its handle alive and no other. -/
theorem isSome_kept?_modify_add {f : Fleet} (hf : f.Sound) {n : Nat} {d : State}
    (hd : f.get? n = some d) (x : Entry) (k : Handle) :
    ((f.modify n fun _ => d.add x).kept? k).isSome ↔
      (f.kept? k).isSome ∨ k = d.nextHandle x.kind := by
  obtain ⟨hserial, hfresh, -⟩ := hf n d hd
  by_cases hk : k.issuer = some n
  · have hd' : (f.modify n fun _ => d.add x).get? n = some (d.add x) := by
      rw [get?_modify, if_pos rfl, hd]
      rfl
    rw [kept?_eq hk hd', kept?_eq hk hd, State.isSome_kept?_add hfresh]
    have : k = d.nextHandle x.kind ↔ k.id = d.lastId + 1 ∧ k.kind = x.kind := by
      obtain ⟨id, kind, issuer⟩ := k
      simp only [State.nextHandle, Handle.mk.injEq, hserial]
      exact ⟨fun h => ⟨h.1, h.2.1⟩, fun h => ⟨h.1, h.2, hk⟩⟩
    rw [this]
  · have hne : k ≠ d.nextHandle x.kind := fun h => hk (by rw [h, State.nextHandle, hserial])
    have heq : (f.modify n fun _ => d.add x).kept? k = f.kept? k := by
      unfold kept?
      cases hi : k.issuer with
      | none => rfl
      | some m =>
        have hm : m ≠ n := fun h => hk (by rw [hi, h])
        simp only [Option.bind_some, get?_modify, if_neg hm]
    rw [heq]
    simp [hne]

theorem Sound.modify_add {f : Fleet} (hf : f.Sound) {n : Nat} {d : State}
    (hd : f.get? n = some d) (x : Entry) : (f.modify n fun _ => d.add x).Sound := by
  intro m d' hd'
  rw [get?_modify] at hd'
  by_cases hm : m = n
  · subst hm
    rw [if_pos rfl, hd] at hd'
    obtain rfl := Option.some.inj hd'
    obtain ⟨hserial, hfresh, hapart⟩ := hf m d hd
    exact ⟨(State.serial_eq_of_bare (d.intact_add x).bare).trans hserial,
      hfresh.add x, hapart.add hfresh x⟩
  · rw [if_neg hm] at hd'
    exact hf m d' hd'

end Fleet

end DriverBench.Simulator
