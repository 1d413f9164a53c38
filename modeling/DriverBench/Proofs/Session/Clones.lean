import DriverBench.Proofs.Session.Maintained
import DriverBench.Proofs.Session.Naming
import DriverBench.Proofs.Simulator.Independence
/-!
# Clones are copies of their own

A clone is made of what its operand denotes: the driver has got the entry of the original once more,
under an id that it has not given out before (`Gives.exists_added`). From then on these are two
things. What is asked of the driver is for one of them at most, and so is a line of `bind` or `run`;
and what is not for a thing leaves it as it is. So each of the two stays what it was until something
is done to it itself, for as long as anything refers to it (`Reached.independent_copy_of_clone`).
-/

namespace DriverBench

open Device Number Simulator

namespace Reading

open Session (Describes)

variable {α : Type} {a : α} {c c' : Cursor} {s s' : Session} {line : String} {word : Token}
  {rest : List Token} {e source : Entity}

theorem Gives.of_holding {r : Reading α} (h : Gives (Reading.holding e r) c s a c' s') :
    ∃ t, Gives r c s a c' t ∧ s' = t.letGo [e] := by
  unfold Gives at *
  rw [run_holding] at h
  rcases hr : r.run c s with ⟨⟨f | b, c₁⟩, t⟩
  · rw [hr] at h
    cases h
  · rw [hr] at h
    cases h
    exact ⟨t, rfl, rfl⟩

/-- **What stands in a clone**: its operand is an expression behind a parenthesis, and when the
clone has been made of what that denotes, this is let go. -/
theorem Gives.of_clone (hword : word.kind = .word) (htext : word.text = Derivation.clone.keyword)
    (hfree : s.env.lookup word.text = none) (h : Gives evaluate ⟨line, word :: rest⟩ s e c' s') :
    ∃ opening ahead source c₁ s₁ o made, rest = opening :: ahead ∧ opening.kind = .openParen ∧
      Gives evaluate ⟨line, ahead⟩ s source c₁ s₁ ∧
      Gives (clonedObject (Cursor.current ⟨line, ahead⟩) source) c₁ s₁ o c' made ∧
      e.object = o ∧
      s' = { made.letGo [source] with entities := (made.letGo [source]).entities + 1 } := by
  have hkeyword : Constructor.ofKeyword? word.text = some (.derived .clone) := by
    rw [htext]
    rfl
  have hconstruct : Gives (construct (.derived .clone) word evaluate >>= fun o =>
      liftM (Action.enter o)) ⟨line, rest⟩ s e c' s' :=
    (run_evaluate_constructor hword hfree hkeyword).symm.trans h
  obtain ⟨o, c₂, s₂, hmade, hentered⟩ := hconstruct.exists_of_bind
  cases hentered
  obtain ⟨_, c₃, s₃, hopened, hderived⟩ := hmade.exists_of_bind
  unfold Gives at hopened
  rw [run_openArguments] at hopened
  split at hopened
  next hopening =>
    obtain ⟨opening, ahead, hpending, hkind⟩ := exists_cons_of_kind (by decide) hopening
    obtain rfl : rest = opening :: ahead := hpending
    cases hopened
    obtain ⟨first, c₄, s₄, hcurrent, hbehind⟩ := hderived.exists_of_bind
    cases hcurrent
    obtain ⟨source, c₁, s₁, hsource, hheld⟩ := hbehind.exists_of_bind
    obtain ⟨made, hcloned, rfl⟩ := hheld.of_holding
    exact ⟨opening, ahead, source, c₁, s₁, o, made, rfl, hkind, hsource, hcloned, rfl, rfl⟩
  next => cases hopened

/-- **A clone that was made** is one more entry of the driver in use, like the one that it keeps for
the original. -/
theorem Gives.exists_added {operand : Token} {o : Object} (hs : s.Balanced source.handles)
    (hsource : s.Describes source.object) (h : Gives (clonedObject operand source) c s o c' s') :
    ∃ n d k x, s.active = some n ∧ s.fleet.get? n = some d ∧ source.object.handle? = some k ∧
      k.issuer = some n ∧ k.id ≤ d.lastId ∧ d.kept? k = some x ∧ source.object.IsClone o ∧
      o.handle? = some (d.nextHandle x.kind) ∧ s' = s.withDriver n (d.add x) := by
  obtain ⟨hkind, close, rest, hclose, hc⟩ := h.of_clonedObject
  obtain ⟨k, hk⟩ := Object.exists_handle hkind
  obtain ⟨hissuer, d, x, hd, hle, hx, hfits⟩ :=
    hs.fits hsource hk (.inr (Entity.mem_handles.2 hk))
  obtain ⟨n, hn, hget⟩ := Session.exists_of_driver? hd
  obtain ⟨o', hgives, hform, hhandle⟩ :=
    gives_clonedObject operand hn hget hkind hk hle hx hfits hclose c.line rest
  rw [← hc] at hgives
  -- The same reading has given the one and the other.
  obtain ⟨hanswer, rfl⟩ := Prod.mk.inj (h.symm.trans hgives)
  obtain ⟨ho, -⟩ := Prod.mk.inj hanswer
  obtain rfl := Except.ok.inj ho
  exact ⟨n, d, k, x, hn, hget, hk, hissuer.trans hn, hle, hx, hform, hhandle, rfl⟩

end Reading

/-- An assignment that goes through has bound what stands behind the equals sign. -/
theorem Statement.exists_inserted_of_gives {line : String} {target mark : Token}
    {tokens : List Token} {s t : Session} {o : Outcome} {c : Cursor}
    (h : Reading.Gives Statement.assignment ⟨line, target :: mark :: tokens⟩ s o c t) :
    ∃ e c' s' env, Reading.Gives Reading.evaluate ⟨line, tokens⟩ s e c' s' ∧
      s'.env.insert target.text e = .ok env ∧ t = { s' with env } := by
  obtain ⟨name, c₁, s₁, htarget, hbehind⟩ := h.exists_of_bind
  obtain ⟨_, c₂, s₂, hadvance, hexpression⟩ := hbehind.exists_of_bind
  obtain ⟨e, c₃, s₃, hevaluate, hrest⟩ := hexpression.exists_of_bind
  obtain ⟨last, c₄, s₄, hcurrent, hend⟩ := hrest.exists_of_bind
  unfold Reading.Gives at htarget
  rw [run_target] at htarget
  split at htarget
  · cases htarget
  split at htarget
  · cases htarget
  cases htarget
  cases hadvance
  cases hcurrent
  split at hend
  · cases hend
  · obtain ⟨_, c₅, s₅, hbind, hdone⟩ := hend.exists_of_bind
    cases hdone
    obtain ⟨s₆, c₆, s₇, hsession, hinserted⟩ := hbind.exists_of_bind
    cases hsession
    split at hinserted
    · next env hinsert =>
      cases hinserted
      exact ⟨e, _, _, env, hevaluate, hinsert, rfl⟩
    · cases hinserted

namespace Session

open Reading Statement

variable {s s' : Session} {line name : String} {tokens rest : List Token} {word : Token}
  {source e : Entity} {c c' : Cursor}

/-- **A copy was made** of an object of the device: another one of the same form, under an id that
the driver in use had not given out, with an entry that is equal to that of the original. The
original still has its entry, if anything refers to it. -/
structure Copies (s : Session) (source copy : Object) (s' : Session) (h h' : Handle) (x : Entry) :
    Prop where
  sourceHandle : source.handle? = some h
  copyHandle : copy.handle? = some h'
  form : source.IsClone copy
  typeTag : copy.typeTag = source.typeTag
  kind : h'.kind = h.kind
  issuer : h'.issuer = h.issuer
  older : h.id < h'.id
  fresh : ∃ d, s.driver? = some d ∧ d.lastId < h'.id
  kept : s.fleet.kept? h = some x
  copied : s'.fleet.kept? h' = some x
  unchanged : h ∈ s'.handles → s'.fleet.kept? h = some x

/-- **What a clone comes to**: a copy was made, and both were in the driver in use before the
operand was let go. -/
theorem copies_of_clonedObject {operand : Token} {o : Object} {made : Session}
    (hs : s.Balanced source.handles) (hsource : s.Describes source.object)
    (h : Gives (clonedObject operand source) c s o c' made) (hreads : made.Reads s')
    (hs' : s'.Balanced o.handle?.toList) :
    ∃ k k' x, s.Copies source.object o s' k k' x ∧ made.fleet.Sound ∧
      ∀ z ∈ [k, k'], made.fleet.kept? z = some x := by
  obtain ⟨n, d, k, x, hn, hd, hk, hissuer, hle, hx, hform, hhandle, rfl⟩ :=
    h.exists_added hs hsource
  have hget : (s.withDriver n (d.add x)).fleet.get? n = some (d.add x) := get?_withDriver hd _
  have hnext : (d.nextHandle x.kind).issuer = some n := congrArg some (hs.sound n d hd).1
  have hsound : (s.withDriver n (d.add x)).fleet.Sound := hs.sound.modify_add hd x
  have hold : (s.withDriver n (d.add x)).fleet.kept? k = some x := by
    rw [Fleet.kept?_eq hissuer hget, State.kept?_add_of_ne _ _ (by omega), hx]
  have hnew : (s.withDriver n (d.add x)).fleet.kept? (d.nextHandle x.kind) = some x := by
    rw [Fleet.kept?_eq hnext hget, State.kept?_nextHandle]
  refine ⟨k, d.nextHandle x.kind, x, ⟨hk, hhandle, hform, hform.typeTag_eq,
    State.kind_eq_of_kept? hx, hnext.trans hissuer.symm, Nat.lt_succ_of_le hle,
    ⟨d, driver?_of_active hn hd, Nat.lt_succ_self _⟩, ?_, ?_, fun hmem => ?_⟩, hsound, ?_⟩
  · rw [Fleet.kept?_eq hissuer hd, hx]
  · refine hreads.maintains.kept?_eq hsound hnew ((hs'.live _).2 (.inr ?_))
    rw [hhandle]
    exact List.mem_singleton_self _
  · exact hreads.maintains.kept?_eq hsound hold ((hs'.live k).2 (.inl hmem))
  · simp [hold, hnew]

/-! ## Where a clone is bound -/

/-- A line goes through that binds a name to what some tokens express. -/
structure Binds (s : Session) (line name : String) (tokens : List Token) : Prop where
  reads : ∃ target mark, Cursor.ofLine line = ⟨line, target :: mark :: tokens⟩ ∧
    target.kind = .word ∧ target.text = name ∧ mark.kind = .equal
  good : (s.runLine line).1 = .good

/-- What a line comes to that binds a name. -/
theorem Binds.exists_inserted (h : s.Binds line name tokens) :
    ∃ e c' s' env, Gives Reading.evaluate ⟨line, tokens⟩ (s.note (.ran s.depth line)) e c' s' ∧
      s'.env.insert name e = .ok env ∧ (s.runLine line).2 = ({ s' with env }).dropTemporaries := by
  obtain ⟨⟨target, mark, hline, hword, rfl, hmark⟩, hgood⟩ := h
  have hnext : Cursor.next ⟨line, target :: mark :: tokens⟩ = mark :=
    Cursor.next_cons (by rw [hword]; decide) (by rw [hword]; decide)
  have hrun := run_execute_of_valid DriverBench.runScript
    (c := ⟨line, target :: mark :: tokens⟩) (by rw [Cursor.current_cons, hword]; decide)
    (by rw [Cursor.current_cons, hword]; decide) (s.note (.ran s.depth line))
  rw [hnext, if_pos hmark] at hrun
  unfold runLine runLineWith executeWith at hgood ⊢
  dsimp only at hgood ⊢
  rw [hline, hrun] at hgood ⊢
  rcases hassignment : assignment.run ⟨line, target :: mark :: tokens⟩
    (s.note (.ran s.depth line)) with ⟨⟨f | outcome, c⟩, t⟩
  · rw [hassignment] at hgood
    cases hgood
  · obtain ⟨e, c', s', env, hgives, hinsert, rfl⟩ := exists_inserted_of_gives hassignment
    exact ⟨e, c', s', env, hgives, hinsert, rfl⟩

/-- **A clone is a copy of its own.** In a session that lines lead to, or further on in a line that
has only read since and is not in the midst of an expression, a clone that goes through has its
operand behind a parenthesis, and gives a copy of what that denotes. Nothing that is asked of the
driver is for both of the two, and no line is; and whichever of them is kept is as it was, whatever
the driver is asked that is not for it, and whether or not it does it. If a line binds the clone to
a name, then behind the line and behind whatever lines come, each of the two is as it was, as long
as something refers to it and no line of `bind` or `run` was for it. -/
theorem Reached.independent_copy_of_clone {s₀ : Session} (h₀ : s₀.Reached) (hread : s₀.Reads s)
    (hs : s.Balanced []) (hword : word.kind = .word) (htext : word.text = Derivation.clone.keyword)
    (hfree : s.env.lookup word.text = none)
    (h : Gives Reading.evaluate ⟨line, word :: rest⟩ s e c' s') :
    ∃ opening ahead source c₁ s₁ k k' x, rest = opening :: ahead ∧ opening.kind = .openParen ∧
      Gives Reading.evaluate ⟨line, ahead⟩ s source c₁ s₁ ∧
      s₁.Copies source.object e.object s' k k' x ∧
      (∀ q : Request, q.IsFor k → ¬ q.IsFor k') ∧ (∀ r : Executed, r.IsFor k → ¬ r.IsFor k') ∧
      ∀ z ∈ [k, k'],
        (∀ (d : State) (rs : List Request), s'.fleet.kept? z = some x → s'.driver? = some d →
          (∀ q ∈ rs, ¬ q.IsFor z) → (rs.foldl State.after d).kept? z = some x) ∧
        ∀ (r : Session) name, r.Reached → s = r.note (.ran r.depth line) →
          r.Binds line name (word :: rest) → (r.runLine line).2.env.lookup name = some e ∧
          ∀ rs t, (r.runLine line).2.Runs rs t → (∀ p ∈ rs, ¬ p.IsFor z) → z ∈ t.handles →
            t.fleet.kept? z = some x := by
  have husable : s.Usable := hread.toSpares.usable h₀.usable
  have hbalanced := denotes_evaluate ⟨line, word :: rest⟩ s hs
  rw [h] at hbalanced
  obtain ⟨opening, ahead, source, c₁, s₁, o, made, rfl, hopening, hsource, hcloned, ho, hs'⟩ :=
    h.of_clone hword htext hfree
  have hoperand := denotes_evaluate ⟨line, ahead⟩ s hs
  have hdescribed := forms_evaluate ⟨line, ahead⟩ s husable
  rw [hsource] at hoperand hdescribed
  have hreads : made.Reads s' := by
    rw [hs']
    exact ReadFrame.of_builds _ _
      (Frame.trans (builds_letGo made [source]) (within_enter o (made.letGo [source])))
  have hobject : s'.Balanced o.handle?.toList := ho ▸ hbalanced
  obtain ⟨k, k', x, hcopies, hsound, hmade⟩ :=
    copies_of_clonedObject hoperand hdescribed hcloned hreads hobject
  have hne : k.id ≠ k'.id := Nat.ne_of_lt hcopies.older
  refine ⟨opening, ahead, source, c₁, s₁, k, k', x, rfl, hopening, hsource, ho ▸ hcopies,
    fun q hk hk' => hne (hk.id_eq hk'), fun r hk hk' => hne (hk.id_eq hk'), fun z hz =>
      ⟨fun d rs hkept hd hrs => ?_, fun r name hr hnote hbinds => ?_⟩⟩
  · have hissuer : z.issuer = s'.active := hbalanced.issued z (by rw [hkept]; rfl)
    obtain ⟨n, hn, hget⟩ := exists_of_driver? hd
    rw [Fleet.kept?_eq (hissuer.trans hn) hget] at hkept
    obtain ⟨-, hfresh, -⟩ := hbalanced.sound n d hget
    rw [State.kept?_after_all (hfresh z (by rw [hkept]; rfl)) hrs, hkept]
  · subst hnote
    obtain ⟨e', c'', s'', env, hgives, hinsert, hafter⟩ := hbinds.exists_inserted
    obtain ⟨hanswer, rfl⟩ := Prod.mk.inj (h.symm.trans hgives)
    obtain rfl : e = e' := Except.ok.inj (Prod.mk.inj hanswer).1
    have ht : (r.runLine line).2.Reached := hr.runLine line
    refine ⟨?_, fun rs t hruns hrs hmem => ?_⟩
    · have henv : (r.runLine line).2.env = env := by
        rw [hafter]
        exact (reads_dropTemporaries _).env
      refine (Environment.lookup_eq_some_iff ht.distinct).2 ?_
      rw [henv, Environment.bindings_of_insert hinsert]
      exact List.mem_append_right _ (List.mem_singleton_self _)
    · have hdropped : s'.Maintains Eq z (r.runLine line).2 := by
        rw [hafter]
        have hreads : ({ s' with env } : Session).Reads ({ s' with env }).dropTemporaries :=
          reads_dropTemporaries _
        exact Frame.trans (maintains_of_fleet_eq rfl) hreads.maintains
      have hbound : made.Maintains Eq z (r.runLine line).2 :=
        Frame.trans hreads.maintains hdropped
      exact (Frame.trans hbound (hruns.maintains ht hrs)).kept?_eq hsound (hmade z hz)
        (((hruns.reached ht).1.idle.balanced.live z).2 (.inl hmem))

/-- A kernel with an argument is cloned, and then the original is given another argument. The clone
has the first one still. -/
theorem clone_keeps_argument :
    let t := (oneArgument.runLine "j = clone(k)").2
    let u := (t.runLine "bind k 0 int(2)").2
    t.env.lookup "j" = some ⟨3, .kernel ⟨3, .kernel, some 0⟩ "k"⟩ ∧
      u.fleet.kept? ⟨3, .kernel, some 0⟩ = some (.kernel ⟨"k", [some (.bytes [1, 0, 0, 0])]⟩) ∧
      u.fleet.kept? ⟨2, .kernel, some 0⟩ = some (.kernel ⟨"k", [some (.bytes [2, 0, 0, 0])]⟩) := by
  intro t u
  let line := "j = clone(k)"
  have hr : oneArgument.Reached := reached_after _
  have hs : (oneArgument.note (.ran oneArgument.depth line)).Reached :=
    hr.around _ _ _ _ _ _ _
  have htokens : Cursor.ofLine line = ⟨line, [⟨.word, 0, "j"⟩, ⟨.equal, 2, "="⟩,
      ⟨.word, 4, "clone"⟩, ⟨.openParen, 9, "("⟩, ⟨.word, 10, "k"⟩, ⟨.closeParen, 11, ")"⟩]⟩ := by
    decide +kernel
  have hkernel : (oneArgument.note (.ran oneArgument.depth line)).env.lookup "k" =
      some ⟨1, .kernel ⟨2, .kernel, some 0⟩ "k"⟩ := by decide +kernel
  have hentry : (oneArgument.note (.ran oneArgument.depth line)).fleet.kept?
      ⟨2, .kernel, some 0⟩ = some (.kernel ⟨"k", [some (.bytes [1, 0, 0, 0])]⟩) := by
    decide +kernel
  have hclone : CloneOf "k" [⟨.word, 4, "clone"⟩, ⟨.openParen, 9, "("⟩, ⟨.word, 10, "k"⟩,
      ⟨.closeParen, 11, ")"⟩] := .mk rfl rfl rfl rfl rfl rfl
  obtain ⟨e, c', s', hgives, -⟩ :=
    gives_evaluate_cloneOf (c := ⟨line, _⟩) hs hkernel (.inr rfl) hclone
  obtain ⟨opening, ahead, source, c₁, s₁, k, k', x, hrest, -, hsource, hcopies, -, hapart, hboth⟩ :=
    hs.independent_copy_of_clone (Frame.refl _) hs.idle.balanced rfl rfl (by decide +kernel) hgives
  -- The operand is the kernel that is bound.
  cases hrest
  cases (run_evaluate_bound rfl hkernel).symm.trans hsource
  cases hcopies.sourceHandle
  cases hentry.symm.trans hcopies.kept
  obtain ⟨hlookup, hruns⟩ := (hboth k' (by simp)).2 oneArgument "j" hr rfl
    ⟨⟨_, _, htokens, rfl, rfl, rfl⟩, by decide +kernel⟩
  have hbound : t.env.lookup "j" = some ⟨3, .kernel ⟨3, .kernel, some 0⟩ "k"⟩ := by decide +kernel
  cases hbound.symm.trans hlookup
  cases hcopies.copyHandle
  have hrun : t.Runs [⟨"bind k 0 int(2)", t⟩] u := .line (by decide +kernel) (.done _)
  have hfor : Executed.IsFor ⟨"bind k 0 int(2)", t⟩ ⟨2, .kernel, some 0⟩ := by
    have hbind : (Cursor.ofLine "bind k 0 int(2)").advance = ⟨"bind k 0 int(2)",
        ⟨.word, 5, "k"⟩ :: (Cursor.ofLine "bind k 0 int(2)").pending.drop 2⟩ := by decide +kernel
    have hbound : t.env.lookup "k" = some ⟨1, .kernel ⟨2, .kernel, some 0⟩ "k"⟩ := by
      decide +kernel
    exact Executed.isFor_of_bound (.inl (by decide +kernel)) hbind rfl hbound rfl rfl
  have hsame := hruns _ _ hrun (List.forall_mem_singleton.2 (hapart _ hfor)) (by decide +kernel)
  exact ⟨hlookup, hsame, by decide +kernel⟩

end Session

end DriverBench
