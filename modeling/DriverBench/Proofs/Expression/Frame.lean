import DriverBench.Proofs.Session.Reached
/-!
# What an expression leaves alone

An expression makes objects on the device and writes into what it made. All that was there before
is as it was, whether or not the expression fails: the session around it, the settings and the
records of the driver, and under every id what the driver kept there. What is new has an id that was
never given out.
-/

namespace DriverBench

open Device Simulator

namespace Simulator.State

/-- The driver with more in it: its settings and records are the same, it has under every id what it
had there, and what it did not have has a new id. -/
structure Extends (d d' : State) : Prop where
  selection : d'.selection = d.selection
  launches : d'.launches = d.launches
  flushes : d'.flushes = d.flushes
  finishes : d'.finishes = d.finishes
  memory : ∀ id m, d.memories.get? id = some m → d'.memories.get? id = some m
  program : ∀ id p, d.programs.get? id = some p → d'.programs.get? id = some p
  kernel : ∀ id k, d.kernels.get? id = some k → d'.kernels.get? id = some k
  fresh : ∀ kind id, d.lookup kind id = none → (d'.lookup kind id).isSome → d.lastId < id

/-- Under an id that had been given out there is only what was there before. -/
theorem Intact.lookup_of_le {d d' : State} (h : d.Intact d') {kind : HandleKind} {id : Nat}
    (hid : id ≤ d.lastId) {x : Entry} (hx : d'.lookup kind id = some x) :
    d.lookup kind id = some x := by
  have hkept : d.kept? ⟨id, x.kind, none⟩ = some x := h.kept _ x hid (kept?_of_lookup hx none)
  have hown : d.lookup x.kind id = some x := (Option.filter_eq_some_iff.1 hkept).1
  exact (lookup_congr (table_eq_of_lookup hx)).symm.trans hown

/-- A driver that has lost nothing since is the driver with more in it. -/
theorem Intact.extends {d d' : State} (h : d.Intact d')
    (hlive : ∀ kind id, (d.lookup kind id).isSome → id ≤ d.lastId ∧ (d'.lookup kind id).isSome) :
    d.Extends d' := by
  have hbare : ∀ {α : Type} (f : State → α), f d'.bare = f d.bare := fun f => congrArg f h.bare
  have hentry : ∀ kind id x, d.lookup kind id = some x → d'.lookup kind id = some x := by
    intro kind id x hx
    obtain ⟨hid, hsome⟩ := hlive kind id (by rw [hx]; rfl)
    obtain ⟨y, hy⟩ := Option.isSome_iff_exists.1 hsome
    have hxy := h.lookup_of_le hid hy
    rw [hx] at hxy
    rw [hy, Option.some.inj hxy]
  refine ⟨hbare (·.selection), hbare (·.launches), hbare (·.flushes), hbare (·.finishes),
    fun id m hm => ?_, fun id p hp => ?_, fun id k hk => ?_, fun kind id hnone hsome => ?_⟩
  · have hx := hentry .buffer id (.memory m) (by rw [lookup, hm]; rfl)
    obtain ⟨m', hm', heq⟩ := Option.map_eq_some_iff.1 hx
    rw [hm', Entry.memory.inj heq]
  · have hx := hentry .program id (.program p) (by rw [lookup, hp]; rfl)
    obtain ⟨p', hp', heq⟩ := Option.map_eq_some_iff.1 hx
    rw [hp', Entry.program.inj heq]
  · have hx := hentry .kernel id (.kernel k) (by rw [lookup, hk]; rfl)
    obtain ⟨k', hk', heq⟩ := Option.map_eq_some_iff.1 hx
    rw [hk', Entry.kernel.inj heq]
  · refine Nat.lt_of_not_le fun hid => ?_
    obtain ⟨y, hy⟩ := Option.isSome_iff_exists.1 hsome
    have hold := h.lookup_of_le hid hy
    rw [hnone] at hold
    cases hold

end Simulator.State

namespace Session

variable {s s' : Session} {d : State}

/-- What was bound, under way or held for the line still is. -/
theorem Builds.mem_handles (h : s.Builds s') {k : Handle} (hk : k ∈ s.handles) :
    k ∈ s'.handles := by
  obtain ⟨e, he, hek⟩ := Session.mem_handles.1 hk
  obtain ⟨es, hes, -⟩ := h.inFlight
  refine Session.mem_handles.2 ⟨e, ?_, hek⟩
  rw [held, h.env, hes, h.temporaries]
  simp only [held, List.mem_append] at he ⊢
  grind

/-- Behind an expression the driver in use has all that it had. -/
theorem Builds.extends (h : s.Builds s') {Y : List Handle} (hs : s.Balanced [])
    (hs' : s'.Balanced Y) (hd : s.driver? = some d) :
    ∃ d', s'.driver? = some d' ∧ d.Extends d' := by
  obtain ⟨n, hn, hget⟩ := exists_of_driver? hd
  obtain ⟨d', hget', hintact⟩ := h.intact.exists_of_left hget
  have hd' : s'.driver? = some d' := by
    rw [driver?, h.active, hn]
    exact hget'
  refine ⟨d', hd', hintact.extends fun kind id hsome => ?_⟩
  obtain ⟨x, hx⟩ := Option.isSome_iff_exists.1 hsome
  have hkept := State.kept?_of_lookup hx (some n)
  have hfresh : id ≤ d.lastId := (hs.sound n d hget).2.1 ⟨id, x.kind, some n⟩ (by rw [hkept]; rfl)
  -- It is referred to, since it is kept; it still is, so it is still kept.
  have hmem : (⟨id, x.kind, some n⟩ : Handle) ∈ s.handles := by
    have hlive : (s.fleet.kept? ⟨id, x.kind, some n⟩).isSome := by
      rw [Fleet.kept?_eq rfl hget, hkept]
      rfl
    simpa using (hs.live _).1 hlive
  have hlive' := (hs'.live _).2 (.inl (h.mem_handles hmem))
  rw [Fleet.kept?_eq rfl hget'] at hlive'
  obtain ⟨y, hy⟩ := Option.isSome_iff_exists.1 hlive'
  have hown : d'.lookup x.kind id = some y := (Option.filter_eq_some_iff.1 hy).1
  refine ⟨hfresh, ?_⟩
  rw [← State.lookup_congr (State.table_eq_of_lookup hx), hown]
  rfl

/-- **Evaluating an expression disturbs nothing that is there.** Wherever a cursor stands, and
whether or not the expression fails: bindings, options, depth of scripts and driver in use are the
same, operations under way are only added to, and the driver is the driver that was, with more in
it. -/
theorem Reached.extends_evaluate (hs : s.Reached) (hd : s.driver? = some d) (c : Cursor) :
    let s' := (Reading.evaluate.run c s).2
    s'.env = s.env ∧ s'.options = s.options ∧ s'.depth = s.depth ∧ s'.active = s.active ∧
      (∃ es, s'.inFlight = s.inFlight ++ es) ∧
      ∃ d', s'.driver? = some d' ∧ d.Extends d' := by
  have hbuilds := Reading.within_builds_evaluate c s
  have hbalanced := Reading.denotes_evaluate c s hs.idle.balanced
  obtain ⟨es, hes, -⟩ := hbuilds.inFlight
  refine ⟨hbuilds.env, hbuilds.options, hbuilds.depth, hbuilds.active, ⟨es, hes⟩, ?_⟩
  rcases hr : Reading.evaluate.run c s with ⟨⟨f | e, c'⟩, s'⟩
  · rw [hr] at hbuilds hbalanced
    exact hbuilds.extends hs.idle.balanced hbalanced hd
  · rw [hr] at hbuilds hbalanced
    exact hbuilds.extends hs.idle.balanced hbalanced hd

/-- An expression that makes a clone and fails behind it: the buffer that was cloned is there with
its bytes. -/
theorem extends_of_unclosed_clone :
    ∃ d d', (after ["b = buffer(uchar(1, 2))"]).driver? = some d ∧
      (Reading.evaluate.run (Cursor.ofLine "(clone(b)")
        (after ["b = buffer(uchar(1, 2))"])).2.driver? = some d' ∧
      d.lastId < d'.lastId ∧ d.Extends d' ∧ d'.memories.get? 1 = some ⟨[1, 2], none⟩ := by
  have hs : (after ["b = buffer(uchar(1, 2))"]).Reached := reached_after _
  have hbytes : (after ["b = buffer(uchar(1, 2))"]).driver?.bind (·.memories.get? 1) =
      some ⟨[1, 2], none⟩ := by decide +kernel
  have hids : ((after ["b = buffer(uchar(1, 2))"]).driver?.map (·.lastId),
      (Reading.evaluate.run (Cursor.ofLine "(clone(b)")
        (after ["b = buffer(uchar(1, 2))"])).2.driver?.map (·.lastId)) = (some 1, some 2) := by
    decide +kernel
  obtain ⟨d, hd, hget⟩ := Option.bind_eq_some_iff.1 hbytes
  obtain ⟨-, -, -, -, -, d', hd', hextends⟩ :=
    hs.extends_evaluate hd (Cursor.ofLine "(clone(b)")
  rw [hd, hd'] at hids
  obtain ⟨hold, hnew⟩ := Prod.mk.inj hids
  have hlt : d.lastId < d'.lastId := by
    have hone : d.lastId = 1 := Option.some.inj hold
    have htwo : d'.lastId = 2 := Option.some.inj hnew
    omega
  exact ⟨d, d', hd, hd', hlt, hextends, hextends.memory 1 _ hget⟩

end Session

end DriverBench
