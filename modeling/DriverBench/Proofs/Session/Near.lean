import DriverBench.Proofs.Command.Spares
import DriverBench.Proofs.Simulator.Near
/-!
# Sessions that differ in what is shown and in what is waited for

What is printed, which options are set, which operations are still under way and what only these
keep alive: two sessions that differ in nothing else are near (`Session.Near`). What an operation of
a session does, it does in near sessions alike. What is let go may be kept on one side, so nearness
never says that a driver keeps something; for what the session refers to, that is said by the
balance.
-/

namespace DriverBench

open Device Simulator

namespace Session

/-- **Sessions that differ in what is shown and in what is waited for**: in the options, the text on
the streams, the operations under way and what the drivers keep for these. -/
structure Near (s s' : Session) : Prop where
  env : s'.env = s.env
  temporaries : s'.temporaries = s.temporaries
  active : s'.active = s.active
  depth : s'.depth = s.depth
  files : s'.files = s.files
  codec : s'.codec = s.codec
  entities : s'.entities = s.entities
  journal : s'.journal = s.journal
  unbroken : s.Unbroken
  unbroken' : s'.Unbroken
  fleet : Fleet.Pairs (State.Near []) s.fleet s'.fleet

variable {s s' t t' : Session}

theorem Near.symm (h : s.Near s') : s'.Near s :=
  ⟨h.env.symm, h.temporaries.symm, h.active.symm, h.depth.symm, h.files.symm, h.codec.symm,
    h.entities.symm, h.journal.symm, h.unbroken', h.unbroken, fun n => by
      have hn := h.fleet n
      generalize s.fleet.get? n = o, s'.fleet.get? n = o' at hn ⊢
      cases hn with
      | none => exact .none
      | some hd => exact .some hd.symm⟩

/-- Text on the streams is no matter. -/
theorem Near.talks (h : s.Near s') (ht : s.Talks t) (ht' : s'.Talks t') : t.Near t' := by
  obtain ⟨out, err, rfl⟩ := ht
  obtain ⟨out', err', rfl⟩ := ht'
  exact { h with }

/-- Objects are let go, perhaps others on either side. -/
theorem Near.letGo (h : s.Near s') (es es' : List Entity) : (s.letGo es).Near (s'.letGo es') := by
  obtain ⟨fleet, heq, hfades⟩ := letGo_eq s es
  obtain ⟨fleet', heq', hfades'⟩ := letGo_eq s' es'
  rw [heq, heq']
  exact { h with fleet := h.fleet.fade hfades hfades' }

theorem Near.letGoHandle (h : s.Near s') (k : Handle) :
    (s.letGoHandle k).Near (s'.letGoHandle k) := by
  obtain ⟨fleet, heq, hfades⟩ := foldl_letGoHandle_eq [k] s
  obtain ⟨fleet', heq', hfades'⟩ := foldl_letGoHandle_eq [k] s'
  rw [List.foldl_cons, List.foldl_nil] at heq heq'
  rw [heq, heq']
  exact { h with fleet := h.fleet.fade hfades hfades' }

theorem Near.dropTemporaries (h : s.Near s') : s.dropTemporaries.Near s'.dropTemporaries := by
  have hempty : ({ s with temporaries := [] } : Session).Near { s' with temporaries := [] } :=
    { h with temporaries := rfl }
  exact hempty.letGo _ _

theorem Near.note (h : s.Near s') (e : Event) : (s.note e).Near (s'.note e) :=
  { h with journal := congrArg (e :: ·) h.journal }

/-- A failure is reported, with or without carets. -/
theorem Near.report (h : s.Near s') (line : String) (f : Failure) :
    (s.report line f).Near (s'.report line f) := by
  have hwrite : ∀ (sink : Sink) (text : String), sink.broken = none →
      (sink.tryWrite text).broken = none := by
    intro sink text hb
    rw [Sink.tryWrite, Sink.write, hb]
  exact { h with
    journal := congrArg (Event.reported line f :: ·) h.journal
    unbroken := ⟨h.unbroken.1, hwrite _ _ h.unbroken.2⟩
    unbroken' := ⟨h.unbroken'.1, hwrite _ _ h.unbroken'.2⟩ }

theorem Near.withDepth (h : s.Near s') {n n' : Nat} (hn : n' = n) :
    ({ s with depth := n } : Session).Near { s' with depth := n' } :=
  { h with depth := hn }

/-! ## Bindings, options and drivers -/

theorem Near.fst_invalidate (h : s.Near s') : s'.invalidate.1 = s.invalidate.1 :=
  congrArg (fun env : Environment Entity => (env.clearWhere (·.object.isDriverOwned)).1) h.env

theorem Near.invalidate (h : s.Near s') : s.invalidate.2.Near s'.invalidate.2 := by
  have hhost : s.hostOnly.Near s'.hostOnly :=
    { h with env := congrArg (fun env : Environment Entity =>
        (env.clearWhere (·.object.isDriverOwned)).2) h.env }
  exact hhost.letGo _ _

theorem Near.setDriver (h : s.Near s') : s.setDriver.2.Near s'.setDriver.2 := by
  have hi := h.invalidate
  have hlength : s'.invalidate.2.fleet.drivers.length = s.invalidate.2.fleet.drivers.length :=
    hi.fleet.length_eq
  refine { hi with active := congrArg some hlength, fleet := ?_ }
  change Fleet.Pairs (State.Near [])
    (s.invalidate.2.fleet.start.2.modify s.invalidate.2.fleet.drivers.length _)
    (s'.invalidate.2.fleet.start.2.modify s'.invalidate.2.fleet.drivers.length _)
  rw [hlength]
  exact hi.fleet.start_both.modify_both _ fun d d' _ _ hd => { hd with }

/-- A setting is a matter of what is shown and of what is waited for. -/
theorem Near.configure (h : s.Near s') (setting : Setting) (value : Bool) :
    (s.configure setting value).Near (s'.configure setting value) := by
  unfold Session.configure
  dsimp only
  rw [h.active]
  split
  · exact { h with active := rfl, fleet := h.fleet.modify_both _ fun d d' _ _ hd => { hd with } }
  · exact { h with active := rfl }

/-- Names are taken away on both sides or on neither. -/
theorem Near.unbind (h : s.Near s') (names : List String) :
    match s.unbind names, s'.unbind names with
    | .ok (count, t), .ok (count', t') => count' = count ∧ t.Near t'
    | .error e, .error e' => e' = e
    | _, _ => False := by
  unfold Session.unbind
  rw [h.env]
  cases s.env.release names with
  | error e => rfl
  | ok released =>
    have henv : ({ s with env := released.2 } : Session).Near { s' with env := released.2 } :=
      { h with env := rfl }
    exact ⟨rfl, henv.letGo _ _⟩

/-! ## The driver in use -/

theorem Near.driver? (h : s.Near s') : Option.Rel (State.Near []) s.driver? s'.driver? := by
  unfold Session.driver?
  rw [h.active]
  cases s.active with
  | none => exact .none
  | some n => exact h.fleet n

theorem Near.isNone_driver? (h : s.Near s') : s'.driver?.isNone = s.driver?.isNone := by
  have hd := h.driver?
  generalize s.driver? = o, s'.driver? = o' at hd ⊢
  cases hd <;> rfl

/-- The driver in use knows a handle that it gave out. -/
def Knows (s : Session) (k : Handle) : Prop :=
  ∃ n d, s.active = some n ∧ s.fleet.get? n = some d ∧ d.Knows k

/-- In a session in balance the driver in use knows all that is referred to. -/
theorem Balanced.knows {X : List Handle} (h : s.Balanced X) {k : Handle}
    (hk : k ∈ s.handles ∨ k ∈ X) : s.Knows k := by
  have hlive := (h.live k).2 hk
  obtain ⟨n, d, hn, hd, hkept⟩ := Fleet.exists_of_isSome hlive
  exact ⟨n, d, (h.issued k hlive).symm.trans hn, hd, (h.sound n d hd).2.2, hkept⟩

end Session

open Session (Near Unbroken)

variable {α β : Type} {P : Session → Prop}

namespace Action

/-- A call that is even between drivers that know some handles is even between sessions whose
drivers know them. -/
theorem evenFrom_drive {c : Call α} {hs : List Handle}
    (hc : Even (State.Near (hs.map (·.id))) c) (hP : ∀ s, P s → ∀ k ∈ hs, s.Knows k) :
    EvenFrom Near P (drive c) := by
  intro s s' h hp hp'
  rw [run_drive, run_drive, h.active]
  cases hn : s.active with
  | none => exact ⟨rfl, h⟩
  | some n =>
    dsimp only
    have hpair := h.fleet n
    cases hd : s.fleet.get? n with
    | none =>
      rw [hd] at hpair
      generalize s'.fleet.get? n = o at hpair ⊢
      cases hpair
      exact ⟨rfl, h⟩
    | some d =>
      obtain ⟨d', hd', hnear⟩ := h.fleet.exists_of_left hd
      rw [hd']
      dsimp only
      -- The drivers in use are those that know the handles.
      have hknown : ∀ k ∈ hs, d.Knows k ∧ d'.Knows k := by
        intro k hk
        obtain ⟨m, e, hm, he, hknows⟩ := hP s hp k hk
        obtain ⟨m', e', hm', he', hknows'⟩ := hP s' hp' k hk
        obtain rfl : n = m := Option.some.inj (hn.symm.trans hm)
        obtain rfl : n = m' := Option.some.inj ((h.active.trans hn).symm.trans hm')
        rw [hd] at he
        rw [hd'] at he'
        exact ⟨Option.some.inj he ▸ hknows, Option.some.inj he' ▸ hknows'⟩
      have hwith : ∀ e e' : State, e.Near (hs.map (·.id)) e' →
          (s.withDriver n e).Near (s'.withDriver n e') := fun e e' hee =>
        { h with fleet := h.fleet.modify_both n fun _ _ _ _ _ => hee.forget }
      rcases hr : c.run.run d with ⟨e | a, e₁⟩ <;>
        obtain ⟨e₁', hr', hee⟩ := Parallel.run_eq hc (hnear.knowing hknown) trivial trivial hr <;>
        rw [hr']
      · exact ⟨rfl, hwith _ _ hee⟩
      · exact ⟨rfl, hwith _ _ hee⟩

/-- A call that no handle is given to. -/
theorem even_drive {c : Call α} (hc : Even (State.Near []) c) : Even Near (drive c) := by
  have hnone : Even (State.Near (([] : List Handle).map (·.id))) c := hc
  exact evenFrom_drive hnone fun _ _ => nofun

/-- What only prints comes to the same where the streams work, whatever is printed. -/
theorem parallel_of_talks {a a' : Action Unit} (h : Within Session.Talks a)
    (h' : Within Session.Talks a') (hu : Ensures Unbroken a (fun _ => Unbroken) (fun _ => False))
    (hu' : Ensures Unbroken a' (fun _ => Unbroken) (fun _ => False)) : Parallel Near P a a' := by
  intro s s' hs _ _
  have hok := hu s hs.unbroken
  have hok' := hu' s' hs.unbroken'
  have ht := h s
  have ht' := h' s'
  rcases hr : a.run.run s with ⟨f | u, t⟩ <;> rw [hr] at hok ht
  · exact hok.elim
  rcases hr' : a'.run.run s' with ⟨f' | u', t'⟩ <;> rw [hr'] at hok' ht'
  · exact hok'.elim
  exact ⟨rfl, hs.talks ht ht'⟩

theorem parallel_print (text text' : String) : Parallel Near P (print text) (print text') :=
  parallel_of_talks (within_print _) (within_print _) (Reading.ensures_print _)
    (Reading.ensures_print _)

@[simp] theorem even_print (text : String) : Even Near (print text) := parallel_print text text

@[simp] theorem even_printError (text : String) : Even Near (printError text) :=
  parallel_of_talks (within_printError _) (within_printError _) (Reading.ensures_printError _)
    (Reading.ensures_printError _)

@[simp] theorem even_say (text : String) : Even Near (say text) := even_print _

@[simp] theorem even_warn (text : String) : Even Near (warn text) := even_printError _

/-- A note is printed on both sides, on one or on neither. -/
@[simp] theorem even_note (text : String) : Even Near (note text) :=
  parallel_of_talks (within_note _) (within_note _) (Reading.ensures_note _)
    (Reading.ensures_note _)

@[simp] theorem even_enter (object : Object) : Even Near (enter object) := by
  intro s s' h _ _
  refine ⟨?_, { h with entities := congrArg (· + 1) h.entities }⟩
  change Except.ok (Entity.mk s'.entities object) = .ok ⟨s.entities, object⟩
  rw [h.entities]

@[simp] theorem even_keep (e : Entity) : Even Near (keep e) :=
  even_modify fun _ _ h => { h with temporaries := congrArg (· ++ [e]) h.temporaries }

end Action

namespace Reading

/-- What follows a look at the driver in use goes on from the drivers that were seen. -/
theorem evenFrom_activeDriver_bind {f : State → Reading β}
    (hf : ∀ d d', d.Near [] d' →
      Parallel Near (fun s => P s ∧ s.driver?.isSome) (f d) (f d')) :
    EvenFrom Near P (liftM Action.activeDriver >>= f) := by
  intro c s s' h hp hp'
  have hd := h.driver?
  rw [run_bind, run_bind, run_liftM, run_liftM, Action.run_activeDriver, Action.run_activeDriver]
  generalize ho : s.driver? = o, ho' : s'.driver? = o' at hd ⊢
  cases hd with
  | none => exact ⟨rfl, h⟩
  | some hdd =>
    exact hf _ _ hdd c s s' h ⟨hp, Option.isSome_of_eq_some ho⟩
      ⟨hp', Option.isSome_of_eq_some ho'⟩

theorem EvenFrom.holding {r : Reading α} (h : EvenFrom Near P r) (e : Entity) :
    EvenFrom Near P (holding e r) := by
  intro c s s' hs hp hp'
  obtain ⟨hanswer, hnear⟩ := h c s s' hs hp hp'
  rw [run_holding, run_holding]
  exact ⟨hanswer, hnear.letGo [e] [e]⟩

theorem EvenFrom.undoing {r : Reading α} (h : EvenFrom Near P r) (k : Handle) :
    EvenFrom Near P (undoing k r) := by
  intro c s s' hs hp hp'
  rw [run_undoing, run_undoing]
  rcases hr : r.run c s with ⟨⟨f | a, c'⟩, t⟩ <;>
    obtain ⟨t', hr', hnear⟩ := Parallel.run_eq h hs hp hp' hr <;> rw [hr']
  · exact ⟨rfl, hnear.letGoHandle k⟩
  · exact ⟨rfl, hnear⟩

end Reading

end DriverBench
