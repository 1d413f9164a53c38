import DriverBench.Proofs.Session.Launching
/-!
# What later lines do to one thing

A driver that keeps something under a handle goes on to keep it as it is, or lets it go, whatever
lines come: an id is given out once, memory that there is is not written into, and an argument of a
kernel is set by those lines of `bind` and `run` alone that name this kernel. So of any run it is
enough to know which kernels these lines name (`Runs.maintains`).
-/

namespace DriverBench

open Device Simulator

namespace Simulator.Entry

theorem exists_of_kind_kernel {x : Entry} (h : x.kind = .kernel) : ∃ k, x = .kernel k := by
  unfold kind at h
  split at h
  · split at h <;> cases h
  · cases h
  · exact ⟨_, rfl⟩

theorem Like.eq_of_kind_ne {x x' : Entry} (h : x.Like x') (hkind : x.kind ≠ .kernel) : x = x' := by
  cases x with
  | kernel k => exact absurd rfl hkind
  | memory | program => exact h

end Simulator.Entry

open Statement (command?)

/-- The line is one of `bind` or `run`, and the kernel that it names is the one of a handle. -/
def Executed.IsFor (r : Executed) (h : Handle) : Prop :=
  h.kind = .kernel ∧
    (command? (Cursor.ofLine r.line) = some .bind ∨ command? (Cursor.ofLine r.line) = some .run) ∧
    ∃ e kernel name c' s', Reading.Gives Reading.evaluateKept (Cursor.ofLine r.line).advance
      (r.before.note (.ran r.before.depth r.line)) e c' s' ∧
      e.object = .kernel kernel name ∧ kernel.id = h.id

/-- A line is for the kernel that the name in its first place is bound to. -/
theorem Executed.isFor_of_bound {line : String} {s : Session} {t : Token} {rest : List Token}
    {e : Entity} {kernel : Handle} {name : String}
    (hcommand : command? (Cursor.ofLine line) = some .bind ∨
      command? (Cursor.ofLine line) = some .run)
    (hline : (Cursor.ofLine line).advance = ⟨line, t :: rest⟩) (ht : t.kind = .word)
    (hbound : s.env.lookup t.text = some e) (hobject : e.object = .kernel kernel name)
    (hkind : kernel.kind = .kernel) : Executed.IsFor ⟨line, s⟩ kernel := by
  have hevaluate : Reading.Gives Reading.evaluate ⟨line, t :: rest⟩ (s.note (.ran s.depth line)) e
      ⟨line, rest⟩ (s.note (.ran s.depth line)) := Reading.run_evaluate_bound ht hbound
  have hread := hevaluate.bind (f := fun e => do Action.keep e; return e)
    ((Reading.gives_liftM rfl).bind (Reading.gives_pure e))
  exact ⟨hkind, hcommand, e, kernel, name, _, _, hline ▸ hread, hobject, rfl⟩

/-- A line is for one kernel at most. -/
theorem Executed.IsFor.id_eq {r : Executed} {h k : Handle} (hh : r.IsFor h) (hk : r.IsFor k) :
    h.id = k.id := by
  obtain ⟨-, -, e, kernel, name, c, s, hgives, hobject, hid⟩ := hh
  obtain ⟨-, -, e', kernel', name', c', s', hgives', hobject', hid'⟩ := hk
  -- The one kernel that is named was read.
  obtain ⟨hread, -⟩ := Prod.mk.inj (hgives.symm.trans hgives')
  obtain rfl : e = e' := Except.ok.inj (Prod.mk.inj hread).1
  obtain ⟨rfl, -⟩ := Object.kernel.inj (hobject.symm.trans hobject')
  exact hid.symm.trans hid'

namespace Session

open Statement

/-- What the driver that issued a handle keeps under it was kept under it before, and is related to
what it was. -/
def Maintains (K : Entry → Entry → Prop) (h : Handle) (s s' : Session) : Prop :=
  ∀ n d, h.issuer = some n → s.fleet.get? n = some d → h.id ≤ d.lastId →
    ∃ d', s'.fleet.get? n = some d' ∧ h.id ≤ d'.lastId ∧
      ∀ x', d'.kept? h = some x' → ∃ x, d.kept? h = some x ∧ K x x'

variable {K : Entry → Entry → Prop} {h : Handle} {s s' : Session}

instance : Frame Entry.Like where
  refl := Entry.Like.refl
  trans h h' := h.trans h'

instance : Frame (@Eq Entry) where
  refl _ := rfl
  trans h h' := h.trans h'

/-- Where the drivers go on pair by pair. -/
theorem maintains_of_pairs {R : State → State → Prop} (hfleet : Fleet.Pairs R s.fleet s'.fleet)
    (hR : ∀ d d', R d d' → d.lastId ≤ d'.lastId ∧ ∀ x', h.id ≤ d.lastId → d'.kept? h = some x' →
      ∃ x, d.kept? h = some x ∧ K x x') : s.Maintains K h s' := by
  intro n d _ hd hle
  obtain ⟨d', hd', hdd'⟩ := hfleet.exists_of_left hd
  obtain ⟨hlastId, hkept⟩ := hR d d' hdd'
  exact ⟨d', hd', Nat.le_trans hle hlastId, fun x' hx' => hkept x' hle hx'⟩

/-- **What is still kept** is what it was. -/
theorem Maintains.kept?_eq (hm : s.Maintains Eq h s') (hs : s.fleet.Sound) {x : Entry}
    (hx : s.fleet.kept? h = some x) (hlive : (s'.fleet.kept? h).isSome) :
    s'.fleet.kept? h = some x := by
  obtain ⟨n, d, hn, hd, hold⟩ := Fleet.exists_of_isSome (Option.isSome_of_mem hx)
  obtain ⟨-, hfresh, -⟩ := hs n d hd
  obtain ⟨d', hd', -, hkept⟩ := hm n d hn hd (hfresh h hold)
  rw [Fleet.kept?_eq hn hd] at hx
  rw [Fleet.kept?_eq hn hd'] at hlive ⊢
  obtain ⟨x', hx'⟩ := Option.isSome_iff_exists.1 hlive
  obtain ⟨x₀, hx₀, rfl⟩ := hkept x' hx'
  rw [hx', ← hx₀, hx]

section Frame

variable [Frame K]

instance : TalkFrame (Maintains K h) where
  refl _ n d _ hd hle := ⟨d, hd, hle, fun x hx => ⟨x, hx, Frame.refl x⟩⟩
  trans := by
    intro a b c hab hbc n d hn hd hle
    obtain ⟨d', hd', hle', hkept⟩ := hab n d hn hd hle
    obtain ⟨d'', hd'', hle'', hkept'⟩ := hbc n d' hn hd' hle'
    refine ⟨d'', hd'', hle'', fun z hz => ?_⟩
    obtain ⟨y, hy, hyz⟩ := hkept' z hz
    obtain ⟨x, hx, hxy⟩ := hkept y hy
    exact ⟨x, hx, Frame.trans hxy hyz⟩
  of_talks := by
    rintro s _ ⟨out, err, rfl⟩ n d - hd hle
    exact ⟨d, hd, hle, fun x hx => ⟨x, hx, Frame.refl x⟩⟩

/-- Where the drivers are the same. -/
theorem maintains_of_fleet_eq (hf : s'.fleet = s.fleet) : s.Maintains K h s' :=
  fun _ d _ hd hle => ⟨d, hf ▸ hd, hle, fun x hx => ⟨x, hx, Frame.refl x⟩⟩

/-- Reading leaves all as it is that was given out. -/
theorem Reads.maintains (hr : s.Reads s') : s.Maintains K h s' :=
  maintains_of_pairs hr.intact fun _ _ hd =>
    ⟨hd.lastId_le, fun x' hle hx' => ⟨x', hd.kept h x' hle hx', Frame.refl x'⟩⟩

theorem maintains_letGo (s : Session) (es : List Entity) : s.Maintains K h (s.letGo es) := by
  have hreads : s.Reads (s.letGo es) := ReadFrame.of_builds _ _ (builds_letGo s es)
  exact hreads.maintains

theorem maintains_invalidate (s : Session) : s.Maintains K h s.invalidate.2 :=
  maintains_letGo s.hostOnly _

/-- A new driver is not the one that issued what there is. -/
theorem maintains_setDriver (s : Session) : s.Maintains K h s.setDriver.2 := by
  intro n d hn hd hle
  have hinvalidate : s.Maintains K h s.invalidate.2 := s.maintains_invalidate
  obtain ⟨d', hd', hle', hkept⟩ := hinvalidate n d hn hd hle
  refine ⟨d', ?_, hle', hkept⟩
  have hlt : n < s.invalidate.2.fleet.drivers.length := (List.getElem?_eq_some_iff.1 hd').1
  change ((s.invalidate.2.fleet.start.2).modify s.invalidate.2.fleet.drivers.length
    fun d => { d with blocking := s.invalidate.2.options.block }).get? n = some d'
  rw [Fleet.get?_modify, if_neg (Nat.ne_of_lt hlt), Fleet.get?_start, if_neg (Nat.ne_of_lt hlt),
    hd']

theorem maintains_sameTables (hfleet : Fleet.Pairs State.SameTables s.fleet s'.fleet) :
    s.Maintains K h s' :=
  maintains_of_pairs hfleet fun d d' hd => ⟨Nat.le_of_eq hd.lastId.symm, fun x' _ hx' =>
    ⟨x', by rwa [State.kept?, hd.lookup_eq] at hx', Frame.refl x'⟩⟩

theorem within_maintains_drive {α : Type} {c : Call α}
    (hc : Tries c fun d _ d' => d.SameTables d') :
    Action.Within (Maintains K h) (Action.drive c) := by
  refine Action.within_drive fun s n d hd => maintains_sameTables ?_
  refine Fleet.pairs_modify fun d₁ hd₁ => ?_
  obtain rfl := Option.some.inj (hd.symm.trans hd₁)
  exact hc.within (fun _ _ _ h => h) d

/-- **What a command does**, beside reading and setting arguments, alters nothing that there is. -/
theorem allows_maintains (command : Command) : Allows (Maintains K h) command := by
  cases command with
  | load => exact maintains_setDriver
  | select => exact ⟨fun target index => within_maintains_drive (tries_select target index),
      maintains_invalidate⟩
  | set =>
    intro s setting value
    obtain ⟨fleet, heq, hpairs⟩ := configure_eq s setting value
    rw [heq]
    exact maintains_sameTables hpairs
  | release =>
    intro s s' names count hu
    rw [eq_letGo_of_unbind hu]
    exact maintains_letGo { s with env := s.env.keep fun b => !names.contains b.1 } _
  | save => exact fun s files => maintains_of_fleet_eq rfl
  | run =>
    refine ⟨fun plan => within_maintains_drive ((tries_enqueueKernel _ _ _).mono
      fun d _ d' h => ?_), within_maintains_drive tries_finish,
      fun s es => maintains_of_fleet_eq rfl⟩
    obtain ⟨k, arguments, -, -, rfl⟩ := h
    exact ⟨rfl, rfl, rfl, rfl, rfl⟩
  | wait =>
    exact ⟨within_maintains_drive tries_finish,
      fun s => maintains_letGo { s with inFlight := [] } _⟩
  | flush => exact within_maintains_drive tries_flush
  | info | list | script | bind | help | quit => trivial

/-- A line does to what there is what its command does. -/
theorem maintains_runLine (s : Session) {line : String}
    (hperform : ∀ command, command? (Cursor.ofLine line) = some command →
      Reading.Within (Maintains K h) (perform DriverBench.runScript command)) :
    s.Maintains K h (s.runLine line).2 := by
  have hreads : ∀ s s' : Session, s.Reads s' → s.Maintains K h s' := fun _ _ hr => hr.maintains
  have hassignment : Reading.Within (Maintains K h) assignment :=
    within_assignment hreads fun _ _ _ _ _ => maintains_of_fleet_eq rfl
  exact within_runLineWith hreads (fun _ _ => maintains_of_fleet_eq rfl)
    (within_execute (hassignment _) hperform) s

end Frame

/-! ## Lines -/

/-- **Every line** keeps what there is, but for the arguments of kernels. -/
theorem maintains_like_runLine (s : Session) {line : String}
    (hscript : command? (Cursor.ofLine line) ≠ some .script) :
    s.Maintains Entry.Like h (s.runLine line).2 := by
  have hspares : ∀ s s' : Session, s.Spares s' → s.Maintains Entry.Like h s' := fun _ _ hs =>
    maintains_of_pairs hs.fleet fun _ _ hd => ⟨hd.lastId_le, hd.kept h⟩
  exact maintains_runLine s fun command hcommand =>
    within_perform hspares _ (fun heq => hscript (heq ▸ hcommand)) (allows_maintains command)

/-- A line of `bind` or `run` that is not for a kernel does nothing to it. -/
theorem Reached.kernel?_runLine (hs : s.Reached) {line : String} (hkind : h.kind = .kernel)
    (hcommand : command? (Cursor.ofLine line) = some .bind ∨
      command? (Cursor.ofLine line) = some .run)
    (hr : ¬ Executed.IsFor ⟨line, s⟩ h) : (s.runLine line).2.kernel? h.id = s.kernel? h.id := by
  rcases hcommand with hbind | hrun
  · obtain ⟨-, -, hsame⟩ | ⟨plan, read, set, rest, k, k', hline, -, hgave, -⟩ := hs.bind_cases hbind
    · exact hsame h.id
    · cases hline with
      | mk hgives hobject =>
        refine (hgave.kernels h.id).trans (if_neg fun hid => hr ?_)
        exact ⟨hkind, .inl hbind, _, _, _, _, _, hgives, hobject, hid.symm⟩
  · obtain ⟨-, -, -, hsame⟩ | ⟨plan, read, set, rest, k, k', hline, -, hgave, -⟩ :=
      hs.run_cases hrun
    · exact hsame h.id
    · cases hline with
      | mk hgives hobject =>
        refine (hgave.kernels h.id).trans (if_neg fun hid => hr ?_)
        exact ⟨hkind, .inr hrun, _, _, _, _, _, hgives, hobject, hid.symm⟩

/-- What is kept under the handle of a kernel is a kernel of the driver in use. -/
theorem Reached.kernel?_of_kept? (hs : s.Reached) {n : Nat} {d : State} (hn : h.issuer = some n)
    (hd : s.fleet.get? n = some d) {k : Kernel} (hk : d.kept? h = some (.kernel k)) :
    s.kernel? h.id = some k := by
  have hissuer : h.issuer = s.active :=
    hs.idle.balanced.issued h (by rw [Fleet.kept?_eq hn hd, hk]; rfl)
  rw [kernel?_of_driver? (driver?_of_active (hissuer.symm.trans hn) hd)]
  exact State.get?_of_kept? hk

/-- A line of `bind` or `run` that is not for a kernel keeps it. -/
theorem Reached.maintains_setting (hs : s.Reached) {line : String} (hkind : h.kind = .kernel)
    (hcommand : command? (Cursor.ofLine line) = some .bind ∨
      command? (Cursor.ofLine line) = some .run)
    (hr : ¬ Executed.IsFor ⟨line, s⟩ h) : s.Maintains Eq h (s.runLine line).2 := by
  have hscript : command? (Cursor.ofLine line) ≠ some .script := by
    rcases hcommand with hcommand | hcommand <;> rw [hcommand] <;> decide
  intro n d hn hd hle
  obtain ⟨d', hd', hle', hkept⟩ := maintains_like_runLine s hscript n d hn hd hle
  refine ⟨d', hd', hle', fun x' hx' => ?_⟩
  obtain ⟨x, hx, -⟩ := hkept x' hx'
  obtain ⟨k, rfl⟩ := Entry.exists_of_kind_kernel ((State.kind_eq_of_kept? hx).trans hkind)
  obtain ⟨k', rfl⟩ := Entry.exists_of_kind_kernel ((State.kind_eq_of_kept? hx').trans hkind)
  have hsame := hs.kernel?_runLine hkind hcommand hr
  rw [(hs.runLine line).kernel?_of_kept? hn hd' hx', hs.kernel?_of_kept? hn hd hx] at hsame
  exact ⟨_, hx, congrArg Entry.kernel (Option.some.inj hsame).symm⟩

/-- **A line keeps** what it is not for. -/
theorem Reached.maintains_runLine (hs : s.Reached) {line : String}
    (hscript : command? (Cursor.ofLine line) ≠ some .script)
    (hr : ¬ Executed.IsFor ⟨line, s⟩ h) : s.Maintains Eq h (s.runLine line).2 := by
  by_cases hkind : h.kind = .kernel
  · by_cases hcommand : command? (Cursor.ofLine line) = some .bind ∨
      command? (Cursor.ofLine line) = some .run
    · exact hs.maintains_setting hkind hcommand hr
    · refine Session.maintains_runLine s fun command hname => ?_
      refine within_perform_of_reads (fun _ _ hreads => hreads.maintains) _ ?_
        (allows_maintains command)
      rintro hmem
      simp only [List.mem_cons, List.not_mem_nil, or_false] at hmem
      rcases hmem with rfl | rfl | rfl
      · exact hscript hname
      · exact hcommand (.inl hname)
      · exact hcommand (.inr hname)
  · -- Only of kernels a line may leave something that is merely alike.
    intro n d hn hd hle
    obtain ⟨d', hd', hle', hkept⟩ := maintains_like_runLine s hscript n d hn hd hle
    refine ⟨d', hd', hle', fun x' hx' => ?_⟩
    obtain ⟨x, hx, hlike⟩ := hkept x' hx'
    exact ⟨x, hx, hlike.eq_of_kind_ne ((State.kind_eq_of_kept? hx).trans_ne hkind)⟩

/-! ## Runs -/

/-- **A run keeps** what none of its lines is for. -/
theorem Runs.maintains {rs : List Executed} (hruns : s.Runs rs s') (hs : s.Reached)
    (hrs : ∀ r ∈ rs, ¬ r.IsFor h) : s.Maintains Eq h s' := by
  obtain ⟨-, hreached⟩ := hruns.reached hs
  refine hruns.keeps (P := s.Maintains Eq h) (fun r hr hbefore => ?_) (fun t _ _ _ _ ht => ?_)
    (fun t ht => ?_) (Frame.refl s)
  · exact Frame.trans hbefore
      ((hreached r hr).maintains_runLine (hruns.ne_script r hr) (hrs r hr))
  · exact Frame.trans ht (maintains_of_fleet_eq rfl)
  · exact Frame.trans ht (reads_dropTemporaries t).maintains

end Session

end DriverBench
