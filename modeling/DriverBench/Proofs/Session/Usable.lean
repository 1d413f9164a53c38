import DriverBench.Proofs.Expression.Clone
import DriverBench.Proofs.Expression.InFlight
import DriverBench.Proofs.Expression.Usable
import DriverBench.Proofs.Session.Lines
import DriverBench.Proofs.Session.Saving
import DriverBench.Proofs.Simulator.Binary
/-!
# What is bound can be used

The session says of what is bound how large it is and of what form, and the driver in use has an
entry for it. Expressions make both from the same values, and no line changes one without the other
(`lines_usable`); so what the session says is so of every session that lines lead to, and there is
an entry to say it of, since nothing that is bound is ever let go (`Reached.fits`). Hence the calls
that a clone and a save of something bound come to are none that a driver refuses.
-/

namespace DriverBench

open Device Number Raster Simulator

namespace Session

/-! ## What lines preserve -/

section Usable

variable {s s' : Session} {e : Entity}

instance : TalkFrame (Preserves Usable) where
  refl _ h := h
  trans h h' hs := h' (h hs)
  of_talks := by
    rintro s _ ⟨out, err, rfl⟩ h
    exact ⟨h.numbered, h.described⟩

theorem preserves_letGo (s : Session) (es : List Entity) : Preserves Usable s (s.letGo es) :=
  (builds_letGo s es).toSpares.usable

theorem Usable.bind {name : String} {env : Environment Entity} (h : s.Usable)
    (he : s.Describes e.object) (hi : s.env.insert name e = .ok env) :
    ({ s with env } : Session).Usable := by
  refine ⟨h.numbered, fun e' he' => ?_⟩
  rw [Environment.values_of_insert hi] at he'
  rcases List.mem_append.1 he' with hold | hnew
  · exact h.described e' hold
  · obtain rfl := List.mem_singleton.1 hnew
    exact he

/-- Where the drivers are the same ones, and no more is bound. -/
theorem Usable.fewer (h : s.Usable) (hactive : s'.active = s.active) (hfleet : s'.fleet = s.fleet)
    (henv : ∀ e ∈ s'.env.values, e ∈ s.env.values) : s'.Usable := by
  have hpairs : Fleet.Pairs State.Follows s.fleet s'.fleet := by
    rw [hfleet]
    exact Frame.refl _
  exact (sameDriver_of_pairs hactive hpairs fun _ _ hd => hd).usable h henv

theorem mem_values_of_keep {env : Environment Entity} {p : String × Entity → Bool}
    (he : e ∈ (env.keep p).values) : e ∈ env.values := by
  obtain ⟨b, hb, rfl⟩ := Environment.mem_values.1 he
  exact Environment.mem_values.2 ⟨b, (Environment.mem_keep.1 hb).1, rfl⟩

/-- What goes on being bound behind a change of driver or of selection has no handle. -/
theorem handle?_of_mem_hostOnly (he : e ∈ s.hostOnly.env.values) : e.object.handle? = none := by
  obtain ⟨b, hb, rfl⟩ := Environment.mem_values.1 he
  have howned : b.2.object.isDriverOwned = false := by simpa using (Environment.mem_keep.1 hb).2
  exact Option.not_isSome_iff_eq_none.1 (by rw [← Object.isDriverOwned, howned]; decide)

theorem usable_setDriver (s : Session) : s.setDriver.2.Usable := by
  obtain ⟨active, fleet, heq⟩ := setDriver_eq s
  refine ⟨fun d hd => ?_, fun e he => describes_of_host ?_⟩
  · obtain ⟨n, hn, hget⟩ := exists_of_driver? hd
    rcases get?_setDriver hget with rfl | hold
    · exact hn
    · -- There was no driver with the number of the new one.
      obtain rfl : s.invalidate.2.fleet.drivers.length = n := Option.some.inj hn
      rw [Fleet.get?, List.getElem?_eq_none (Nat.le_refl _)] at hold
      cases hold
  · rw [heq] at he
    exact handle?_of_mem_hostOnly he

end Usable

/-- A call that leaves the tables alone. -/
theorem preserves_drive {α : Type} {c : Call α} (hc : Tries c fun d _ d' => d.SameTables d') :
    Action.Within (Preserves Usable) (Action.drive c) := by
  have hwithin : Action.Within State.SameTables c := hc.within fun _ _ _ h => h
  refine Action.within_drive fun s n d hd hs => ?_
  have hpairs : Fleet.Pairs State.SameTables s.fleet (s.withDriver n (c.run.run d).2).fleet :=
    Fleet.pairs_modify fun d₁ hd₁ => by
      obtain rfl : d = d₁ := Option.some.inj (hd.symm.trans hd₁)
      exact hwithin d
  have hsame : s.SameDriver (s.withDriver n (c.run.run d).2) :=
    sameDriver_of_pairs rfl hpairs fun _ _ h => h.follows
  exact hsame.usable hs fun _ he => he

/-- What a command does changes no entry behind the back of what is bound. -/
theorem allows_usable (command : Command) : Allows (Preserves Usable) command := by
  cases command with
  | load => exact fun s _ => s.usable_setDriver
  | select =>
    refine ⟨fun target index => preserves_drive (Statement.tries_select target index),
      fun s hs => ?_⟩
    exact preserves_letGo s.hostOnly _ (hs.fewer rfl rfl fun _ => mem_values_of_keep)
  | set =>
    intro s setting value hs
    obtain ⟨fleet, heq, hpairs⟩ := configure_eq s setting value
    have hsame : s.SameDriver { s with options := setting.change s.options value, fleet } :=
      sameDriver_of_pairs rfl hpairs fun _ _ h => h.follows
    exact heq ▸ hsame.usable hs fun _ he => he
  | release =>
    intro s s' names count hu hs
    rw [eq_letGo_of_unbind hu]
    exact preserves_letGo { s with env := s.env.keep fun b => !names.contains b.1 } _
      (hs.fewer rfl rfl fun _ => mem_values_of_keep)
  | save => exact fun s files hs => hs.fewer rfl rfl fun _ h => h
  | run =>
    refine ⟨fun plan => preserves_drive ((tries_enqueueKernel _ _ _).mono fun d _ d' h => ?_),
      preserves_drive tries_finish, fun s es hs => hs.fewer rfl rfl fun _ h => h⟩
    obtain ⟨k, arguments, -, -, rfl⟩ := h
    exact ⟨rfl, rfl, rfl, rfl, rfl⟩
  | wait =>
    refine ⟨preserves_drive tries_finish, fun s hs => ?_⟩
    exact preserves_letGo { s with inFlight := [] } s.inFlight (hs.fewer rfl rfl fun _ h => h)
  | flush => exact preserves_drive tries_flush
  | info | list | script | bind | help | quit => trivial

/-- **An assignment** binds what is described. -/
theorem ensures_usable_assignment :
    Reading.Ensures Usable Statement.assignment (fun _ => Usable) Usable := by
  have hspares : ∀ {α : Type} {r : Reading α}, Reading.Within Spares r →
      Reading.Ensures Usable r (fun _ => Usable) Usable := fun h =>
    h.ensures fun _ _ hs h => hs.usable h
  unfold Statement.assignment
  refine (hspares Statement.within_target).bind fun name => ?_
  refine (hspares Reading.within_advance).bind fun _ => ?_
  have hevaluate := (Reading.forms_evaluate).and
    (hspares (Reading.within_evaluate.mono fun _ _ h => h.toSpares))
  refine (hevaluate.mono (fun s hs => ⟨hs, hs⟩) (fun _ _ h => h) fun s hs => hs.2).bind fun e => ?_
  refine Reading.Ensures.bind (Q := fun _ s => s.Describes e.object ∧ s.Usable) (fun _ _ h => h)
    fun t => Reading.Ensures.ite (fun _ => ?_) fun _ => ?_
  · refine Reading.Ensures.bind (Q := fun _ => Usable)
      (Reading.Ensures.change fun s hs => preserves_letGo s [e] hs.2) fun _ => ?_
    refine (hspares Reading.within_cursor).bind fun c => ?_
    exact Reading.Ensures.bind (Q := fun _ _ => False) (Reading.Ensures.raise fun _ h => h)
      fun _ _ _ h => h.elim
  · refine Reading.Ensures.bind (Q := fun _ => Usable) ?_ fun _ => Reading.Ensures.pure fun _ h => h
    unfold Statement.bindName
    refine Reading.Ensures.session_bind fun s hs => ?_
    split
    · next env hi =>
      refine Reading.Ensures.change ?_
      rintro _ rfl
      exact hs.2.bind hs.1 hi
    · exact Reading.Ensures.liftM (Action.Ensures.raise fun _ h => h ▸ hs.2)

theorem lines_usable : Lines (Preserves Usable) where
  spares _ _ h := h.usable
  assignment line s hs := by
    have h := ensures_usable_assignment (Cursor.ofLine line) s hs
    rcases hr : Statement.assignment.run (Cursor.ofLine line) s with ⟨⟨f | o, c⟩, s'⟩ <;>
    · rw [hr] at h
      exact h
  allows := allows_usable
  journal _ _ hs := hs.fewer rfl rfl fun _ h => h
  depth _ _ hs := hs.fewer rfl rfl fun _ h => h

/-- **In every session that lines lead to**, what is said of what is bound is so. -/
theorem Reached.usable {s : Session} (hs : s.Reached) : s.Usable :=
  hs.preserves lines_usable (fun _ => ⟨nofun, nofun⟩)
    fun _ _ _ _ _ _ _ _ hs => hs.fewer rfl rfl fun _ h => h

/-- What is referred to, or named beside the session, is kept by the driver in use, and what is said
of it is so. -/
theorem Balanced.fits {s : Session} {X : List Handle} (hs : s.Balanced X) {o : Object}
    (ho : s.Describes o) {h : Handle} (hh : o.handle? = some h) (hheld : h ∈ s.handles ∨ h ∈ X) :
    h.issuer = s.active ∧ ∃ d x, s.driver? = some d ∧ h.id ≤ d.lastId ∧ d.kept? h = some x ∧
      o.Fits x := by
  obtain ⟨hissuer, d, hd, hle, hfits⟩ := ho h hh
  obtain ⟨n, hn, hget⟩ := exists_of_driver? hd
  have hkept : (s.fleet.kept? h).isSome := (hs.live h).2 hheld
  rw [Fleet.kept?_eq (hissuer.trans hn) hget] at hkept
  obtain ⟨x, hx⟩ := Option.isSome_iff_exists.1 hkept
  exact ⟨hissuer, d, x, hd, hle, hx, hfits x hx⟩

/-- What is bound is kept by the driver in use, and what is said of it is so. -/
theorem Reached.fits {s : Session} (hs : s.Reached) {e : Entity} (he : e ∈ s.env.values)
    {h : Handle} (hh : e.object.handle? = some h) :
    h.issuer = s.active ∧ ∃ d x, s.driver? = some d ∧ h.id ≤ d.lastId ∧ d.kept? h = some x ∧
      e.object.Fits x :=
  hs.idle.balanced.fits (hs.usable.described e he) hh
    (.inl (mem_handles.2 ⟨e, mem_held.2 (.inl he), hh⟩))

end Session

/-! ## Clones -/

namespace Reading

variable {c : Cursor} {s : Session}

/-- **What is bound** can be cloned, if it is memory or a kernel. -/
theorem gives_clonedObject_of_bound (hs : s.Reached) {e : Entity} (he : e ∈ s.env.values)
    (hkind : e.object.memory?.isSome ∨ e.object.kernel?.isSome) {operand close : Token}
    {rest : List Token} {line : String} (hclose : close.kind = .closeParen) :
    ∃ o s', Gives (clonedObject operand e) ⟨line, close :: rest⟩ s o ⟨line, rest⟩ s' ∧
      e.object.IsClone o := by
  obtain ⟨h, hh⟩ := Object.exists_handle hkind
  obtain ⟨-, d, x, hd, hle, hx, hfits⟩ := hs.fits he hh
  obtain ⟨n, hn, hget⟩ := Session.exists_of_driver? hd
  obtain ⟨o, hmade, hform, -⟩ :=
    gives_clonedObject operand hn hget hkind hh hle hx hfits hclose line rest
  exact ⟨o, _, hmade, hform⟩

/-- The tokens of the clone of a name, whatever stands behind them. -/
inductive CloneOf (name : String) : List Token → Prop
  | mk {word opening operand close : Token} {rest : List Token} :
      word.kind = .word → word.text = Derivation.clone.keyword → opening.kind = .openParen →
      operand.kind = .word → operand.text = name → close.kind = .closeParen →
      CloneOf name (word :: opening :: operand :: close :: rest)

/-- **The clone of a bound name** goes through. Where `clone` itself is bound, it is no clone. -/
theorem gives_evaluate_cloneOf (hs : s.Reached) {name : String} {e : Entity}
    (he : s.env.lookup name = some e)
    (hkind : e.object.memory?.isSome ∨ e.object.kernel?.isSome) (h : CloneOf name c.pending) :
    ∃ e' c' s', Gives evaluate c s e' c' s' ∧
      (s.env.lookup Derivation.clone.keyword = none → e.object.IsClone e'.object) := by
  obtain ⟨line, pending⟩ := c
  cases h with
  | @mk word opening operand close rest hword hclone hopening hoperand hname hclose =>
  cases hbound : s.env.lookup word.text with
  | some e₀ =>
    refine ⟨e₀, _, s, gives_evaluateFrom_name hword hbound, fun hfree => ?_⟩
    rw [← hclone, hbound] at hfree
    cases hfree
  | none =>
    have hkeyword : Constructor.ofKeyword? word.text = some (.derived .clone) := by
      rw [hclone]
      rfl
    have hopens : Opens .clone word ⟨line, word :: opening :: operand :: close :: rest⟩ s :=
      ⟨hword, hbound, hkeyword, nofun, hopening, rfl⟩
    have hsource : Gives (evaluateFrom (operand :: close :: rest))
        ⟨line, operand :: close :: rest⟩ s e ⟨line, close :: rest⟩ s :=
      gives_evaluateFrom_name hoperand (hname ▸ he)
    have hcloned : ∃ o s',
        Gives (clonedObject operand e) ⟨line, close :: rest⟩ s o ⟨line, rest⟩ s' ∧
          e.object.IsClone o :=
      gives_clonedObject_of_bound hs (Environment.mem_values_of_lookup he) hkind hclose
    obtain ⟨o, s', hmade, hform⟩ := hcloned
    have hentered : Gives (do
          let o ← holding e (derive .clone operand e)
          Action.enter o) ⟨line, close :: rest⟩ s ⟨(s'.letGo [e]).entities, o⟩ ⟨line, rest⟩
        { s'.letGo [e] with entities := (s'.letGo [e]).entities + 1 } :=
      (hmade.holding e).bind (gives_liftM rfl)
    have hrun := (hopens.run_evaluateFrom opening (operand :: close :: rest)).trans
      (hsource.bind (f := fun source => do
        let o ← holding source (derive .clone operand source)
        Action.enter o) hentered)
    exact ⟨_, _, _, hrun, fun _ => hform⟩

end Reading

namespace Session

/-! ## Saves -/

/-- An image of the host is saved, unless the codec fails. -/
theorem saved_image_cases (s : Session) (path : String) (i : Image) :
    (∃ bytes, s.saved path (.image i) = .ok bytes) ∨
      ∃ why, s.saved path (.image i) = .error { fault := .codec why } := by
  change (∃ bytes, ((Statement.imageFile path i.format i.desc i.data.bytes).run.run s).1 = _) ∨
    ∃ why, ((Statement.imageFile path i.format i.desc i.data.bytes).run.run s).1 = _
  unfold Statement.imageFile
  rw [Action.run_get_bind]
  split
  · next why _ => exact .inr ⟨why, rfl⟩
  · next bytes _ => exact .inl ⟨bytes, rfl⟩
  · exact .inl ⟨i.data.bytes, rfl⟩

/-- **What is bound** can be read back to be saved, if it is no kernel, and then only the codec can
fail. -/
theorem Reached.saved_cases {s : Session} (hs : s.Reached) {e : Entity} (he : e ∈ s.env.values)
    (hkind : e.object.kernel? = none) {t : Session} (ht : t.driver? = s.driver?) (path : String) :
    (∃ bytes, t.saved path e.object = .ok bytes) ∨
      ∃ why, t.saved path e.object = .error { fault := .codec why } := by
  cases ho : e.object with
  | data d => exact .inl ⟨d.bytes, rfl⟩
  | image i => exact t.saved_image_cases path i
  | memory m =>
    obtain ⟨-, d, x, hd, -, hx, hfits⟩ := hs.fits he (h := m.handle) (by rw [ho]; rfl)
    rw [ho] at hfits
    cases x with
    | memory entry =>
      obtain ⟨bytes, image⟩ := entry
      obtain rfl : image = m.image := hfits.image
      have hstores : t.Stores m m.image bytes :=
        ⟨⟨d, ht.trans hd, State.get?_of_kept? hx⟩, rfl, hfits.length.symm⟩
      have hlt : bytes.length < allocationLimit := hfits.length ▸ hfits.bounded
      cases himage : m.image with
      | none => exact .inl ⟨bytes, (himage ▸ hstores).saved_buffer hlt path⟩
      | some form =>
        obtain ⟨format, desc⟩ := form
        rw [himage] at hstores
        rw [hstores.saved_image (hfits.width_ne_zero himage)
          (hfits.length.trans (hfits.size_eq_exactSize himage)) hlt path ""]
        exact t.saved_image_cases path _
    | program | kernel => exact hfits.elim
  | program h =>
    obtain ⟨-, d, x, hd, -, hx, hfits⟩ := hs.fits he (h := h) (by rw [ho]; rfl)
    rw [ho] at hfits
    cases x with
    | program p =>
      obtain ⟨n, hn, hget⟩ := exists_of_driver? (ht.trans hd)
      have hbuilt : d.Built h p.source := ⟨p, State.get?_of_kept? hx, hfits, rfl⟩
      have hread := Action.gives_drive hn hget (gives_programBinary hbuilt)
      exact .inl ⟨_, congrArg Prod.fst hread⟩
    | memory | kernel => exact hfits.elim
  | kernel h name => simp [ho, Object.kernel?] at hkind

/-- **What is bound can be used.** In every session that lines lead to, a name that is bound to an
object of the device is bound to one that the driver in use gave out and for which it has an entry,
and what the session says of the object is so: memory has as many bytes as it is said to have and is
an image of the form that it is said to be, or none; a program is built; a kernel goes by its name.
So the clone of the name goes through, if it is bound to memory or to a kernel, and is of the same
form; and reading an object back to be saved goes through, unless it is a kernel, but for a failure
of the codec. -/
theorem Reached.usable_of_bound {s : Session} (hs : s.Reached) {name : String} {e : Entity}
    (he : s.env.lookup name = some e) :
    (∀ h, e.object.handle? = some h → h.issuer = s.active ∧
      ∃ d x, s.driver? = some d ∧ d.kept? h = some x ∧ e.object.Fits x) ∧
    (∀ c : Cursor, e.object.memory?.isSome ∨ e.object.kernel?.isSome →
      Reading.CloneOf name c.pending → ∃ e' c' s', Reading.Gives Reading.evaluate c s e' c' s' ∧
        (s.env.lookup Derivation.clone.keyword = none → e.object.IsClone e'.object)) ∧
    ∀ (t : Session) path, t.driver? = s.driver? → e.object.kernel? = none →
      (∃ bytes, t.saved path e.object = .ok bytes) ∨
        ∃ why, t.saved path e.object = .error { fault := .codec why } := by
  have hmem := Environment.mem_values_of_lookup he
  refine ⟨fun h hh => ?_, fun c hkind hc => ?_, fun t path ht hkind => ?_⟩
  · obtain ⟨hissuer, d, x, hd, -, hx, hfits⟩ := hs.fits hmem hh
    exact ⟨hissuer, d, x, hd, hx, hfits⟩
  · exact Reading.gives_evaluate_cloneOf hs he hkind hc
  · exact hs.saved_cases hmem hkind ht path

/-- A buffer is bound in the session, and cloned. -/
theorem usable_of_buffer :
    ∃ e, (after ["b = buffer(16)"]).env.lookup "b" = some e ∧
      (∃ d x, (after ["b = buffer(16)"]).driver? = some d ∧
        d.kept? ⟨1, .buffer, some 0⟩ = some x ∧ e.object.Fits x) ∧
      ∃ e' c' s', Reading.Gives Reading.evaluate (Cursor.ofLine "clone(b)")
        (after ["b = buffer(16)"]) e' c' s' ∧ e.object.IsClone e'.object := by
  have he : (after ["b = buffer(16)"]).env.lookup "b" =
      some ⟨0, .memory (.ofBuffer ⟨1, .buffer, some 0⟩ 16)⟩ := by
    decide +kernel
  have htokens : (Cursor.ofLine "clone(b)").pending = [⟨.word, 0, "clone"⟩, ⟨.openParen, 5, "("⟩,
      ⟨.word, 6, "b"⟩, ⟨.closeParen, 7, ")"⟩] := by
    decide +kernel
  obtain ⟨hfits, hclone, -⟩ := (reached_after ["b = buffer(16)"]).usable_of_bound he
  obtain ⟨e', c', s', hgives, hform⟩ := hclone (Cursor.ofLine "clone(b)") (.inl rfl)
    (htokens ▸ .mk rfl rfl rfl rfl rfl rfl)
  exact ⟨_, he, (hfits _ rfl).2, e', c', s', hgives, hform (by decide +kernel)⟩

end Session

end DriverBench
