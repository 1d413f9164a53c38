import DriverBench.Proofs.Reading.Quiet
import DriverBench.Proofs.Simulator.Fleet
/-!
# What the drivers keep is what the session refers to

The balance of a session has two sides: the handles under which some driver keeps an entry, and the
handles of the objects that the session refers to. While an expression is read there are objects
that nothing refers to yet; their handles are named beside the session (`Balanced`). Every operation
that takes references away lets the objects go, and the sides stay equal.
-/

namespace DriverBench

open Device Simulator

namespace Session

/-- The handles of the objects that the session refers to. -/
def handles (s : Session) : List Handle :=
  s.held.filterMap (·.object.handle?)

/-- **The drivers keep what the session refers to**, what some further handles name, and nothing
else; all of it was given out by the driver in use. -/
structure Balanced (s : Session) (extra : List Handle) : Prop where
  live : ∀ h : Handle, (s.fleet.kept? h).isSome ↔ h ∈ s.handles ∨ h ∈ extra
  issued : ∀ h : Handle, (s.fleet.kept? h).isSome → h.issuer = s.active
  sound : s.fleet.Sound

/-- No line is under way: nothing is held for one, and nothing is kept beside what is referred to.
-/
structure Idle (s : Session) : Prop where
  balanced : s.Balanced []
  temporaries : s.temporaries = []

/-- The same is referred to, by the line that is run as well, and the drivers keep the same alive.
-/
structure Keeps (s s' : Session) : Prop where
  handles : ∀ h, h ∈ s'.handles ↔ h ∈ s.handles
  temporaries : s'.temporaries = s.temporaries
  active : s'.active = s.active
  fleet : Fleet.Pairs State.SameLive s.fleet s'.fleet

theorem mem_handles {s : Session} {h : Handle} :
    h ∈ s.handles ↔ ∃ e ∈ s.held, e.object.handle? = some h := by
  simp [handles]

theorem holds_iff {s : Session} {h : Handle} : s.holds h = true ↔ h ∈ s.handles := by
  simp [holds, mem_handles]

instance : TalkFrame Keeps where
  refl s := ⟨fun _ => Iff.rfl, rfl, rfl, Frame.refl s.fleet⟩
  trans h h' := ⟨fun k => (h'.handles k).trans (h.handles k), h'.temporaries.trans h.temporaries,
    h'.active.trans h.active, Frame.trans h.fleet h'.fleet⟩
  of_talks := by
    rintro s _ ⟨out, err, rfl⟩
    exact ⟨fun _ => Iff.rfl, rfl, rfl, Frame.refl s.fleet⟩

theorem Balanced.keeps {s s' : Session} {X : List Handle} (h : s.Balanced X) (hk : s.Keeps s') :
    s'.Balanced X := by
  refine ⟨fun k => ?_, fun k hl => ?_, h.sound.pairs hk.fleet⟩
  · rw [hk.fleet.isSome_kept?, h.live, hk.handles]
  · rw [hk.active]
    exact h.issued k (hk.fleet.isSome_kept? k |>.1 hl)

theorem Idle.keeps {s s' : Session} (h : s.Idle) (hk : s.Keeps s') : s'.Idle :=
  ⟨h.balanced.keeps hk, hk.temporaries.trans h.temporaries⟩

/-- References may move between the session and the handles beside it. -/
theorem Balanced.move {s s' : Session} {X Y : List Handle} (h : s.Balanced X)
    (hf : s'.fleet = s.fleet) (ha : s'.active = s.active)
    (hk : ∀ k, k ∈ s'.handles ∨ k ∈ Y ↔ k ∈ s.handles ∨ k ∈ X) : s'.Balanced Y := by
  refine ⟨fun k => ?_, fun k hl => ?_, hf ▸ h.sound⟩
  · rw [hf, h.live, hk]
  · rw [ha]
    exact h.issued k (hf ▸ hl)

/-! ## What a driver keeps -/

theorem exists_of_driver? {s : Session} {d : State} (hd : s.driver? = some d) :
    ∃ n, s.active = some n ∧ s.fleet.get? n = some d :=
  Option.bind_eq_some_iff.1 hd

theorem driver?_of_active {s : Session} {n : Nat} {d : State} (hn : s.active = some n)
    (hd : s.fleet.get? n = some d) : s.driver? = some d :=
  Option.bind_eq_some_iff.2 ⟨n, hn, hd⟩

/-- What is referred to was given out by the driver in use. -/
theorem Balanced.issuer_eq {s : Session} (h : s.Balanced []) {k : Handle} (hk : k ∈ s.handles) :
    k.issuer = s.active :=
  h.issued k ((h.live k).2 (.inl hk))

/-- Each driver keeps just the entries that the session refers to. -/
theorem Balanced.isSome_lookup_iff {s : Session} (h : s.Balanced []) {n : Nat} {d : State}
    (hd : s.fleet.get? n = some d) (kind : HandleKind) (id : Nat) :
    (d.lookup kind id).isSome ↔
      ∃ k ∈ s.handles, k.issuer = some n ∧ k.id = id ∧ k.kind.table = kind.table := by
  have hlive : ∀ k : Handle, k.issuer = some n → ((d.kept? k).isSome ↔ k ∈ s.handles) := by
    intro k hk
    have := h.live k
    rw [Fleet.kept?_eq hk hd] at this
    simpa using this
  constructor
  · intro hl
    obtain ⟨x, hx⟩ := Option.isSome_iff_exists.1 hl
    -- The entry says itself what kind its handle is of.
    have htable := State.table_eq_of_lookup hx
    have hkind : d.lookup x.kind id = some x := (State.lookup_congr htable).trans hx
    have hkept : d.kept? ⟨id, x.kind, some n⟩ = some x :=
      Option.filter_eq_some_iff.2 ⟨hkind, by simp⟩
    refine ⟨⟨id, x.kind, some n⟩, (hlive _ rfl).1 ?_, rfl, rfl, htable⟩
    rw [hkept]
    rfl
  · rintro ⟨k, hk, hi, rfl, htable⟩
    obtain ⟨x, hx⟩ := Option.isSome_iff_exists.1 ((hlive k hi).2 hk)
    have hl := (Option.filter_eq_some_iff.1 hx).1
    rw [← State.lookup_congr htable, hl]
    rfl

theorem Balanced.isSome_lookup_iff_of_active {s : Session} (h : s.Balanced []) {n : Nat} {d : State}
    (hn : s.active = some n) (hd : s.fleet.get? n = some d) (kind : HandleKind) (id : Nat) :
    (d.lookup kind id).isSome ↔ ∃ k ∈ s.handles, k.id = id ∧ k.kind.table = kind.table := by
  rw [h.isSome_lookup_iff hd]
  constructor
  · rintro ⟨k, hk, -, hid, ht⟩
    exact ⟨k, hk, hid, ht⟩
  · rintro ⟨k, hk, hid, ht⟩
    exact ⟨k, hk, (h.issuer_eq hk).trans hn, hid, ht⟩

/-- The driver in use keeps memory under just the ids of the memory that is referred to. -/
theorem Balanced.contains_memory_iff {s : Session} (h : s.Balanced []) {d : State}
    (hd : s.driver? = some d) (id : Nat) :
    d.memories.contains id = true ↔
      ∃ k ∈ s.handles, k.id = id ∧ (k.kind = .buffer ∨ k.kind = .image) := by
  obtain ⟨n, hn, hget⟩ := exists_of_driver? hd
  have hl := h.isSome_lookup_iff_of_active hn hget .buffer id
  rw [State.lookup, Option.isSome_map] at hl
  refine hl.trans (exists_congr fun k => and_congr_right fun _ => and_congr_right fun _ => ?_)
  cases k.kind <;> simp [HandleKind.table]

/-! ## Letting go -/

theorem letGoHandle_of_mem {s : Session} {h : Handle} (hh : h ∈ s.handles) :
    s.letGoHandle h = s := by
  rw [letGoHandle, if_pos (holds_iff.2 hh)]

theorem letGoHandle_of_not_mem {s : Session} {h : Handle} (hh : h ∉ s.handles) :
    s.letGoHandle h = { s with fleet := s.fleet.release h } := by
  rw [letGoHandle, if_neg fun hm => hh (holds_iff.1 hm)]

/-- Letting go is a matter of the drivers alone, and each of them at most loses entries. -/
theorem foldl_letGoHandle_eq (hs : List Handle) (s : Session) :
    ∃ fleet, hs.foldl letGoHandle s = { s with fleet } ∧
      Fleet.Pairs State.Fades s.fleet fleet := by
  induction hs generalizing s with
  | nil => exact ⟨s.fleet, rfl, Frame.refl _⟩
  | cons h hs ih =>
    rw [List.foldl_cons]
    by_cases hh : h ∈ s.handles
    · rw [letGoHandle_of_mem hh]
      exact ih s
    · rw [letGoHandle_of_not_mem hh]
      obtain ⟨fleet, heq, hg⟩ := ih { s with fleet := s.fleet.release h }
      exact ⟨fleet, heq, Frame.trans (Fleet.pairs_release s.fleet h) hg⟩

theorem letGo_eq (s : Session) (es : List Entity) :
    ∃ fleet, s.letGo es = { s with fleet } ∧ Fleet.Pairs State.Fades s.fleet fleet :=
  foldl_letGoHandle_eq _ s

/-- What is let go is alive afterwards if and only if something else refers to it. -/
theorem isSome_kept?_foldl_letGoHandle (hs : List Handle) (s : Session)
    (hu : ∀ k ∈ hs, ∀ h, (s.fleet.kept? h).isSome → h.place = k.place → h = k) (h : Handle) :
    ((hs.foldl letGoHandle s).fleet.kept? h).isSome ↔
      (s.fleet.kept? h).isSome ∧ (h ∈ s.handles ∨ h ∉ hs) := by
  induction hs generalizing s with
  | nil => simp
  | cons k hs ih =>
    rw [List.foldl_cons]
    by_cases hk : k ∈ s.handles
    · -- Something else refers to it, so nothing is released.
      rw [letGoHandle_of_mem hk, ih s fun j hj => hu j (List.mem_cons_of_mem _ hj)]
      have : h = k → h ∈ s.handles := fun heq => heq ▸ hk
      grind
    · rw [letGoHandle_of_not_mem hk]
      -- A release only takes entries away, so what is unique in its place stays so.
      have hless : ∀ j, ((s.fleet.release k).kept? j).isSome →
          (s.fleet.kept? j).isSome ∧ j.place ≠ k.place := fun j hj => by
        rw [Fleet.kept?_release] at hj
        split at hj
        · cases hj
        · next hne => exact ⟨hj, hne⟩
      rw [ih { s with fleet := s.fleet.release k } fun j hj i hi =>
        hu j (List.mem_cons_of_mem _ hj) i (hless i hi).1]
      change ((s.fleet.release k).kept? h).isSome ∧ (h ∈ s.handles ∨ h ∉ hs) ↔ _
      have hiff : ((s.fleet.release k).kept? h).isSome ↔
          (s.fleet.kept? h).isSome ∧ h ≠ k := by
        constructor
        · intro hl
          exact ⟨(hless h hl).1, fun heq => (hless h hl).2 (heq ▸ rfl)⟩
        · rintro ⟨hl, hne⟩
          rw [Fleet.kept?_release, if_neg fun hp => hne (hu k List.mem_cons_self h hl hp)]
          exact hl
      rw [hiff]
      have : h = k → h ∉ s.handles := fun heq => heq ▸ hk
      grind

theorem sound_foldl_letGoHandle (hs : List Handle) (s : Session) (h : s.fleet.Sound) :
    (hs.foldl letGoHandle s).fleet.Sound := by
  induction hs generalizing s with
  | nil => exact h
  | cons k hs ih =>
    rw [List.foldl_cons]
    refine ih _ ?_
    unfold letGoHandle
    split
    · exact h
    · exact h.release k

/-- **Letting go keeps the balance**: handles beside the session are given up, whether or not
something in the session refers to the same. -/
theorem Balanced.letGoHandles {s : Session} {hs X : List Handle} (h : s.Balanced (hs ++ X))
    (hd : ∀ k ∈ hs, k ∉ X) : (hs.foldl letGoHandle s).Balanced X := by
  have hu : ∀ k ∈ hs, ∀ j, (s.fleet.kept? j).isSome → j.place = k.place → j = k := by
    intro k hk j hj hp
    have hlk : (s.fleet.kept? k).isSome := (h.live k).2 (.inr (List.mem_append_left _ hk))
    exact Fleet.eq_of_place_eq hj hlk hp
  have hlive := isSome_kept?_foldl_letGoHandle hs s hu
  obtain ⟨fleet, heq, -⟩ := foldl_letGoHandle_eq hs s
  have hhandles : (hs.foldl letGoHandle s).handles = s.handles := by rw [heq]; rfl
  have hactive : (hs.foldl letGoHandle s).active = s.active := by rw [heq]
  refine ⟨fun k => ?_, fun k hk => ?_, sound_foldl_letGoHandle hs s h.sound⟩
  · rw [hlive, h.live, hhandles, List.mem_append]
    have := hd k
    grind
  · rw [hactive]
    exact h.issued k ((hlive k).1 hk).1

theorem Balanced.letGoHandle {s : Session} {k : Handle} {X : List Handle}
    (h : s.Balanced (k :: X)) (hk : k ∉ X) : (s.letGoHandle k).Balanced X := by
  have hd : ∀ j ∈ [k], j ∉ X := by simpa using hk
  exact h.letGoHandles hd

/-- References that a session gives up are let go. -/
theorem Balanced.drop {s s' : Session} {es : List Entity} (h : s.Balanced [])
    (hf : s'.fleet = s.fleet) (ha : s'.active = s.active)
    (hk : ∀ k, k ∈ s.handles ↔ k ∈ s'.handles ∨ ∃ e ∈ es, e.object.handle? = some k) :
    (s'.letGo es).Balanced [] := by
  refine Balanced.letGoHandles ?_ (by simp)
  refine h.move hf ha fun k => ?_
  have := hk k
  simp only [List.append_nil, List.mem_filterMap, List.not_mem_nil, or_false]
  exact this.symm

end Session

end DriverBench
