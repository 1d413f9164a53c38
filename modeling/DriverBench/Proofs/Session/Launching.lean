import DriverBench.Proofs.Command.LocalSize
import DriverBench.Proofs.Session.Handing
import DriverBench.Proofs.Simulator.Launches
/-!
# What `run` does

`run` reads all of its line, hands the objects of the line to the kernel and then asks the driver
for the launch, which is refused if the sizes do not fit or if a slot of the kernel is empty. Behind
the launch nothing can fail any more. So a line that goes through has added one launch, and a line
that fails has added none; but what it has handed over stays with the kernel
(`Reached.run_cases`).
-/

namespace DriverBench

open Device Number Simulator

namespace Simulator

/-! ## Launches -/

/-- Where no slot is empty there is a value in each. -/
theorem exists_map_some {α : Type} {slots : List (Option α)} (h : none ∉ slots) :
    ∃ values : List α, slots = values.map some := by
  induction slots with
  | nil => exact ⟨[], rfl⟩
  | cons slot rest ih =>
    obtain ⟨hslot, hrest⟩ := not_or.1 (mt List.mem_cons.2 h)
    obtain ⟨values, rfl⟩ := ih hrest
    obtain ⟨a, rfl⟩ := Option.ne_none_iff_exists'.1 (Ne.symm hslot)
    exact ⟨a :: values, rfl⟩

/-- A value in each slot is a value for each slot. -/
theorem mapM_id_map_some {α : Type} (values : List α) :
    (values.map some).mapM id = some values := by
  induction values with
  | nil => rfl
  | cons a rest ih =>
    rw [List.map_cons, List.mapM_cons, ih]
    rfl

theorem gives_enqueueKernel {d : State} {kernel : Handle} {k : Kernel} {globalSize : List Nat}
    {localSize : Option (List Nat)} {arguments : List Argument}
    (hk : d.kernels.get? kernel.id = some k) (hsizes : SizesFit globalSize localSize)
    (hslots : k.slots = arguments.map some) :
    (enqueueKernel kernel globalSize localSize).Gives d ()
      { d with launches := d.launches ++ [⟨k.name, globalSize, localSize, arguments⟩] } := by
  have hall : k.slots.mapM id = some arguments := by rw [hslots, mapM_id_map_some]
  unfold enqueueKernel Call.Gives
  rw [workSizeFault?_eq_none_iff.2 hsizes]
  change (do
    let entry ← orFail ((← get).kernels.get? kernel.id) launchCall .invalidKernel
    let arguments ← orFail (entry.slots.mapM id) launchCall .invalidKernelArgs
    modify fun s =>
      { s with launches := s.launches ++ [⟨entry.name, globalSize, localSize, arguments⟩] } :
    Call Unit).run.run d = _
  rw [Action.run_get_bind, hk]
  change (do
    let arguments ← orFail (k.slots.mapM id) launchCall .invalidKernelArgs
    modify fun s =>
      { s with launches := s.launches ++ [⟨k.name, globalSize, localSize, arguments⟩] } :
    Call Unit).run.run d = _
  rw [hall]
  rfl

/-- The driver when an operation is done: it has waited for it if it waits for its operations. -/
def State.waited (d : State) : State :=
  { d with finishes := d.finishes + if d.blocking then 1 else 0 }

/-- The driver behind a launch. -/
def State.launched (d : State) (l : Launch) : State :=
  State.waited { d with launches := d.launches ++ [l] }

end Simulator

namespace Session

/-- The driver in use has recorded some more launches, and it has waited for them if it waits for
its operations. -/
def Records (s s' : Session) (launches : List Launch) : Prop :=
  ∀ d, s.driver? = some d → ∃ d', s'.driver? = some d' ∧ d'.blocking = d.blocking ∧
    d'.launches = d.launches ++ launches ∧
    d'.finishes = d.finishes + if d.blocking then launches.length else 0

variable {s s' s'' : Session} {launches later : List Launch}

theorem Records.trans (h : s.Records s' launches) (h' : s'.Records s'' later) :
    s.Records s'' (launches ++ later) := by
  intro d hd
  obtain ⟨d', hd', hblocking, hlaunches, hfinishes⟩ := h d hd
  obtain ⟨d'', hd'', hblocking', hlaunches', hfinishes'⟩ := h' d' hd'
  refine ⟨d'', hd'', hblocking'.trans hblocking, ?_, ?_⟩
  · rw [hlaunches', hlaunches, List.append_assoc]
  · rw [hfinishes', hfinishes, hblocking, List.length_append, Nat.add_assoc]
    split <;> rfl

/-- Where the driver in use is one with the same record. -/
theorem records_of_bare (h : ∀ d, s.driver? = some d →
    ∃ d', s'.driver? = some d' ∧ d'.bare = d.bare) : s.Records s' [] := by
  intro d hd
  obtain ⟨d', hd', hbare⟩ := h d hd
  have hfield : ∀ {β : Type} (g : State → β), g d'.bare = g d.bare := fun g => congrArg g hbare
  refine ⟨d', hd', hfield State.blocking, ?_, ?_⟩
  · rw [List.append_nil]
    exact hfield State.launches
  · rw [List.length_nil, ite_self, Nat.add_zero]
    exact hfield State.finishes

theorem records_of_driver?_eq (h : s'.driver? = s.driver?) : s.Records s' [] :=
  records_of_bare fun d hd => ⟨d, h.trans hd, rfl⟩

theorem Reads.records (h : s.Reads s') : s.Records s' [] := by
  refine records_of_bare fun d hd => ?_
  obtain ⟨d', hd', hintact⟩ := exists_driver?_of_pairs h.active h.intact hd
  exact ⟨d', hd', hintact.bare⟩

/-- A launch is recorded, whatever is in flight then. -/
theorem records_launched {n : Nat} {d : State} (hn : s.active = some n)
    (hd : s.fleet.get? n = some d) (l : Launch) (inFlight : List Entity) :
    s.Records { s.withDriver n (d.launched l) with inFlight } [l] := by
  intro d₁ hd₁
  obtain rfl := Option.some.inj ((driver?_of_active hn hd).symm.trans hd₁)
  exact ⟨d.launched l, driver?_withDriver hn hd _, rfl, rfl, rfl⟩

end Session

namespace Statement

open Reading

/-- Setting arguments is not recorded. -/
theorem Sets.records {s t : Session} {kernel : Handle} {first : Nat}
    {set : List (Token × Entity)} {k k' : Kernel} (h : Sets s kernel first set k k' t) :
    s.Records t [] := by
  obtain ⟨n, d, d', hn, hd, hn', hd', -, hbare⟩ := h.exists_driver
  refine Session.records_of_bare fun d₁ hd₁ => ?_
  obtain rfl := Option.some.inj ((Session.driver?_of_active hn hd).symm.trans hd₁)
  exact ⟨d', Session.driver?_of_active hn' hd', hbare⟩

/-- What `run` does when the arguments are set: it launches the kernel. -/
def performLaunch (plan : LaunchPlan) : Reading Outcome := do
  Action.atSpan (Action.drive plan.call) plan.token.span
  awaitLaunch plan.rest.values
  return .good

theorem run_eq : run = (do
    let plan ← launchOperands
    setting plan.kernel 0 plan.rest.values
    performLaunch plan) := by
  unfold run performLaunch
  rw [prepareLaunch_eq]
  simp only [bind_assoc, pure_bind]

variable {c : Cursor} {t : Session} {n : Nat} {d : State} {plan : LaunchPlan} {k : Kernel}

/-- Operations are waited for, or the objects of the line are in flight. -/
theorem gives_awaitLaunch (hn : t.active = some n) (hd : t.fleet.get? n = some d)
    (values : List (Token × Entity)) :
    ∃ es, (∀ e ∈ es, e ∈ values.map Prod.snd) ∧ Gives (awaitLaunch values) c t () c
      { t.withDriver n d.waited with inFlight := t.inFlight ++ es } := by
  have hactive : Gives (liftM Action.activeDriver) c t d c t :=
    gives_activeDriver (Session.driver?_of_active hn hd)
  unfold awaitLaunch State.waited
  by_cases hblocking : d.blocking = true
  · refine ⟨[], by simp, hactive.bind ?_⟩
    rw [if_pos hblocking, if_pos hblocking, List.append_nil]
    have hfinish : finish.Gives d () { d with finishes := d.finishes + 1 } := rfl
    exact gives_liftM (Action.gives_drive hn hd hfinish)
  · refine ⟨values.map Prod.snd, fun _ he => he, hactive.bind ?_⟩
    rw [if_neg hblocking, if_neg hblocking]
    have hsame : t.withDriver n { d with finishes := d.finishes + 0 } = t :=
      Session.withDriver_self hd
    rw [hsame]
    exact gives_change _

/-- **A launch** goes through if the sizes fit and no slot is empty, and otherwise nothing is done.
-/
theorem run_launching (c : Cursor) (hn : t.active = some n) (hd : t.fleet.get? n = some d)
    (hk : d.kernels.get? plan.kernel.id = some k) :
    (∃ arguments es, SizesFit plan.globalSize plan.rest.localSize ∧
      k.slots = arguments.map some ∧ (∀ e ∈ es, e ∈ plan.rest.values.map Prod.snd) ∧
      (performLaunch plan).run c t = ((.ok .good, c),
        { t.withDriver n (d.launched ⟨k.name, plan.globalSize, plan.rest.localSize, arguments⟩) with
          inFlight := t.inFlight ++ es })) ∨
    (¬ SizesFit plan.globalSize plan.rest.localSize ∨ none ∈ k.slots) ∧
      ∃ f, (performLaunch plan).run c t = ((.error f, c), t) := by
  have hlaunch := tries_enqueueKernel_fits plan.kernel plan.globalSize plan.rest.localSize d d rfl
  rcases hcall : plan.call.run.run d with ⟨err | u, d'⟩
  · unfold LaunchPlan.call at hcall
    rw [hcall] at hlaunch
    obtain rfl : d' = d := hlaunch
    refine .inr ⟨?_, Failure.atSpan { fault := .driver err } plan.token.span, ?_⟩
    · by_contra hready
      obtain ⟨hsizes, hslots⟩ := not_or.1 hready
      obtain ⟨arguments, harguments⟩ := exists_map_some hslots
      have hgives := gives_enqueueKernel hk (not_not.1 hsizes) harguments
      unfold Call.Gives at hgives
      rw [hcall] at hgives
      cases hgives
    · unfold performLaunch
      rw [run_bind, run_liftM, Action.run_atSpan, Action.run_drive, hn]
      dsimp only
      rw [hd]
      dsimp only
      unfold LaunchPlan.call
      rw [hcall]
      dsimp only
      rw [Session.withDriver_self hd]
  · have hgives : plan.call.Gives d () d' := hcall
    unfold LaunchPlan.call at hcall
    rw [hcall] at hlaunch
    obtain ⟨hsizes, k', arguments, hk', hslots, rfl⟩ := hlaunch
    obtain rfl := Option.some.inj (hk.symm.trans hk')
    have hdrive := gives_liftM (c := c) ((Action.gives_drive hn hd hgives).atSpan plan.token.span)
    obtain ⟨es, hes, hawait⟩ := gives_awaitLaunch (c := c) (t := t.withDriver n _) hn
      (Session.get?_withDriver hd _) plan.rest.values
    rw [Session.withDriver_withDriver] at hawait
    exact .inl ⟨arguments, es, hsizes, hslots, hes, hdrive.bind (hawait.bind (gives_pure _))⟩

end Statement

namespace Session

open Reading Statement

variable {s t : Session} {line : String}

/-- What `run` has read is ready when it has been read. -/
theorem Reached.ready_of_launchOperands (hs : s.Reached) {c c' : Cursor} {plan : LaunchPlan}
    {read : Session} (h : Gives launchOperands c (s.note (.ran s.depth line)) plan c' read) :
    LaunchLine c (s.note (.ran s.depth line)) plan read ∧
      read.Ready plan.kernel plan.rest.values := by
  have hnoted : (s.note (.ran s.depth line)).Idle := hs.idle.keeps (keeps_note s _)
  have hheld := ensures_launchOperands c _ hnoted.balanced
  have hline := LaunchLine.of_gives h
  unfold Gives at h
  rw [h] at hheld
  exact ⟨hline, hline.ready (hs.usable.fewer rfl rfl fun _ he => he) hheld⟩

/-- Objects of a launch go in flight, and no kernel among them. -/
theorem turns_launched {n : Nat} {d : State} {kernel : Handle} {values : List (Token × Entity)}
    {read : Session} {k k' : Kernel} (hn : t.active = some n) (hd : t.fleet.get? n = some d)
    (l : Launch) {es : List Entity} (hready : read.Ready kernel values)
    (hsets : Sets read kernel 0 values k k' t) (hes : ∀ e ∈ es, e ∈ values.map Prod.snd) :
    t.Turns (fun _ k => k)
      { t.withDriver n (d.launched l) with inFlight := t.inFlight ++ es } := by
  have hdriver : t.Turns (fun _ k => k) (t.withDriver n (d.launched l)) :=
    turns_withDriver hn hd (Nat.le_refl _) fun _ k hk => ⟨k, hk, rfl⟩
  refine hdriver.trans (turns_of_driver?_eq rfl fun h hkind => ?_)
  -- What was set is memory or data, and refers to no kernel.
  have hnone : ∀ e ∈ es, e.object.handle? ≠ some h := by
    intro e he hh
    obtain ⟨v, hv, rfl⟩ := List.mem_map.1 (hes e he)
    obtain ⟨a, ha⟩ := hsets.passed hv
    generalize ho : v.2.object = o at ha hh
    cases ha with
    | memory m => exact (hready.memory v hv m ho).1 (Option.some.inj hh ▸ hkind)
    | data d => cases hh
    | image i => cases hh
  simp only [reachable, ← List.append_assoc, List.filterMap_append, List.mem_append,
    List.mem_filterMap]
  refine ⟨fun hm => hm.elim id ?_, .inl⟩
  rintro ⟨e, he, hh⟩
  exact absurd hh (hnone e he)

/-- A line that names a command records what the command does. -/
theorem records_of_command {command : Command} {answer : Except Failure Outcome} {c : Cursor}
    {launches : List Launch} (hcommand : command? (Cursor.ofLine line) = some command)
    (hrun : (perform DriverBench.runScript command).run (Cursor.ofLine line).advance
      (s.note (.ran s.depth line)) = ((answer, c), t))
    (h : (s.note (.ran s.depth line)).Records t launches) :
    s.Records (s.runLine line).2 launches := by
  obtain ⟨-, hdriver, -⟩ := runLine_of_command hcommand hrun
  have hnote : s.Records (s.note (.ran s.depth line)) [] := records_of_driver?_eq rfl
  have hrecords := ((hnote.trans h).trans (reads_dropTemporaries t).records).trans
    (records_of_driver?_eq hdriver)
  rwa [List.nil_append, List.append_nil, List.append_nil] at hrecords

/-- **What `run` does**: its operands cannot be read, and it fails and has changed no kernel; or all
of them were read, and of the objects those have been given to the kernel that stand in front of the
first one that has no place in it. If there is none, the sizes fit and no slot of the kernel is
empty then, the launch is recorded with what is in the slots and all is well. Otherwise the line
fails, and no launch is recorded. -/
theorem Reached.run_cases (hs : s.Reached)
    (hcommand : command? (Cursor.ofLine line) = some .run) :
    (Fails launchOperands (Cursor.ofLine line).advance (s.note (.ran s.depth line)) ∧
      (s.runLine line).1 = .fail ∧ s.Records (s.runLine line).2 [] ∧
      ∀ id, (s.runLine line).2.kernel? id = s.kernel? id) ∨
    ∃ plan read set rest k k',
      LaunchLine (Cursor.ofLine line).advance (s.note (.ran s.depth line)) plan read ∧
      plan.rest.values = set ++ rest ∧
      s.GaveObjects read (s.runLine line).2 plan.kernel 0 (set.map (·.2.object)) k k' ∧
      ((s.runLine line).1 = .fail ∧ s.Records (s.runLine line).2 [] ∧
          ((∃ v later, rest = v :: later ∧ k.Rejects set.length v.2.object) ∨
            rest = [] ∧ (¬ SizesFit plan.globalSize plan.rest.localSize ∨ none ∈ k'.slots)) ∨
        (s.runLine line).1 = .good ∧ rest = [] ∧ ∃ arguments,
          SizesFit plan.globalSize plan.rest.localSize ∧ k'.slots = arguments.map some ∧
          s.Records (s.runLine line).2
            [⟨k.name, plan.globalSize, plan.rest.localSize, arguments⟩]) := by
  obtain ⟨f, c', t, hfails, hread, hrun⟩ | ⟨plan, c', read, set, rest, k, k', t, hgives, hread, heq,
      hsets, hanswer⟩ :=
    run_behind_setting (c := (Cursor.ofLine line).advance) (s := s.note (.ran s.depth line))
      LaunchPlan.kernel (fun _ => 0) (fun plan => plan.rest.values) performLaunch
      within_launchOperands fun plan c' read h => (hs.ready_of_launchOperands h).2
  · rw [← run_eq] at hrun
    obtain ⟨houtcome, -, hafter⟩ := runLine_of_command hcommand hrun
    exact .inl ⟨⟨f, c', t, hfails⟩, houtcome, records_of_command hcommand hrun hread.records,
      hs.kernel?_of_reads hread hafter⟩
  · obtain ⟨hline, hready⟩ := hs.ready_of_launchOperands hgives
    rw [← run_eq] at hanswer
    obtain ⟨n, -, d, -, -, hn, hd, hk', -⟩ := hsets.exists_driver
    have hset : (s.note (.ran s.depth line)).Records t [] := hread.records.trans hsets.records
    obtain ⟨rfl, hrun⟩ | ⟨v, later, f, rfl, hrejects, hrun⟩ := hanswer
    · obtain ⟨arguments, es, hsizes, hslots, hes, hlaunch⟩ | ⟨hrefused, f, hlaunch⟩ :=
        run_launching c' hn hd hk'
      · -- The launch goes through.
        have hrecords := records_of_command hcommand (hrun.trans hlaunch)
          (hset.trans (records_launched hn hd _ _))
        rw [hsets.name_eq] at hrecords
        have hvalues : plan.rest.values = set := heq.trans (List.append_nil _)
        rw [hvalues] at hready hes
        obtain ⟨houtcome, hgave⟩ := hs.gaveObjects hcommand hread hsets
          (turns_launched hn hd _ hready hsets hes) (hrun.trans hlaunch)
        exact .inr ⟨plan, read, set, [], k, k', hline, heq, hgave,
          .inr ⟨houtcome, rfl, arguments, hsizes, hslots, hrecords⟩⟩
      · -- The launch is refused, and then the session is the one with the objects set.
        have hrecords := records_of_command hcommand (hrun.trans hlaunch) hset
        obtain ⟨houtcome, hgave⟩ :=
          hs.gaveObjects hcommand hread hsets (turns_refl t) (hrun.trans hlaunch)
        exact .inr ⟨plan, read, set, [], k, k', hline, heq, hgave,
          .inl ⟨houtcome, hrecords, .inr ⟨rfl, hrefused⟩⟩⟩
    · -- An object has no place, and then nothing is launched.
      have hrecords := records_of_command hcommand hrun hset
      obtain ⟨houtcome, hgave⟩ := hs.gaveObjects hcommand hread hsets (turns_refl t) hrun
      rw [Nat.zero_add] at hrejects
      exact .inr ⟨plan, read, set, v :: later, k, k', hline, heq, hgave,
        .inl ⟨houtcome, hrecords, .inl ⟨v, later, rfl, hrejects⟩⟩⟩

/-! ## What is launched -/

/-- **`run` launches once or not at all.** If all is well one launch is recorded, with the name of
the kernel and the sizes of the line. Its arguments are the objects of the line, in their order, and
behind them what has been in the slots before; and the driver has been waited for once more, if it
waits for its operations. If the line fails no launch is recorded and nobody has waited. A list that
begins with a number is read as a local size if it is the first item behind the global size;
where it is a later one the line cannot be read. -/
theorem Reached.run_launches (hs : s.Reached) {d : State} (hd : s.driver? = some d)
    (hcommand : command? (Cursor.ofLine line) = some .run) :
    ((s.runLine line).1 = .good → ∃ plan read k k' arguments d',
      LaunchLine (Cursor.ofLine line).advance (s.note (.ran s.depth line)) plan read ∧
      s.GaveObjects read (s.runLine line).2 plan.kernel 0 (plan.rest.values.map (·.2.object)) k k' ∧
      (∀ (i : Nat) (v : Token × Entity), plan.rest.values[i]? = some v →
        ∃ a, Passed v.2.object a ∧ arguments[i]? = some a) ∧
      (∀ i : Nat, plan.rest.values.length ≤ i → arguments[i]?.map some = k.slots[i]?) ∧
      (s.runLine line).2.driver? = some d' ∧
      d'.launches = d.launches ++ [⟨k.name, plan.globalSize, plan.rest.localSize, arguments⟩] ∧
      d'.finishes = d.finishes + if d.blocking then 1 else 0) ∧
    ((s.runLine line).1 = .fail → ∃ d', (s.runLine line).2.driver? = some d' ∧
      d'.launches = d.launches ∧ d'.finishes = d.finishes) ∧
    ∀ {globalSize : List Nat} {found : LaunchRest} {comma opening number : Token}
      {rest : List Token} {c c' : Cursor} {s₀ t : Session},
      Iterates (launchItem globalSize) {} c s₀ found c' t →
      c'.pending = comma :: opening :: number :: rest → comma.kind = .comma →
      opening.kind = .openParen → number.kind = .constant →
      (c' = c → (loop (launchItem globalSize) {}).run c s₀ = (do
        let sizes ← localSize globalSize
        loop (launchItem globalSize) { localSize := some sizes }).run c.advance s₀) ∧
      (c' ≠ c → (loop (launchItem globalSize) {}).run c s₀ =
        ((.error (Fault.nameOrConstructorRequired.atSpan number.span), ⟨c'.line, number :: rest⟩),
          t)) := by
  refine ⟨fun hgood => ?_, fun hfail => ?_, run_launchLoop_of_constant⟩
  · obtain ⟨-, hfail, -⟩ | ⟨plan, read, set, rest, k, k', hline, heq, hgave, hanswer⟩ :=
      hs.run_cases hcommand
    · rw [hgood] at hfail
      cases hfail
    obtain ⟨hfail, -⟩ | ⟨-, rfl, arguments, -, hslots, hrecords⟩ := hanswer
    · rw [hgood] at hfail
      cases hfail
    rw [List.append_nil] at heq
    subst heq
    obtain ⟨d', hd', -, hlaunches, hfinishes⟩ := hrecords d hd
    refine ⟨plan, read, k, k', arguments, d', hline, hgave, fun i v hv => ?_, fun i hi => ?_, hd',
      hlaunches, hfinishes⟩
    · obtain ⟨a, ha, hslot⟩ := hgave.receives.given i v.2.object
        (by rw [List.getElem?_map, hv, Option.map_some])
      rw [Nat.zero_add, hslots, List.getElem?_map] at hslot
      obtain ⟨a', ha', hsome⟩ := Option.map_eq_some_iff.1 hslot
      exact ⟨a, ha, Option.some.inj hsome ▸ ha'⟩
    · have hother := hgave.receives.others i (.inr (by rwa [List.length_map, Nat.zero_add]))
      rw [← hother, hslots, List.getElem?_map]
  · have hrecords : s.Records (s.runLine line).2 [] := by
      obtain ⟨-, -, hrecords, -⟩ | ⟨plan, read, set, rest, k, k', -, -, -, hanswer⟩ :=
        hs.run_cases hcommand
      · exact hrecords
      obtain ⟨-, hrecords, -⟩ | ⟨hgood, -⟩ := hanswer
      · exact hrecords
      · rw [hfail] at hgood
        cases hgood
    obtain ⟨d', hd', -, hlaunches, hfinishes⟩ := hrecords d hd
    rw [List.append_nil] at hlaunches
    rw [List.length_nil, ite_self, Nat.add_zero] at hfinishes
    exact ⟨d', hd', hlaunches, hfinishes⟩

/-- A local size, one object and one argument that has been set before: the driver has waited for
the launch. The list behind the first comma is the local size. -/
theorem launch_of_object_and_bound_argument :
    let s := after ["p = program(\"kernel void k(int a, int b) \x7b \x7d\")", "k = kernel(p, k)",
      "bind k 1 int(9)"]
    let line := "run k((4), (2), int(7))"
    let c := Cursor.ofLine ", (2), int(7))"
    (∃ plan read k k' d',
      LaunchLine (Cursor.ofLine line).advance (s.note (.ran s.depth line)) plan read ∧
      s.GaveObjects read (s.runLine line).2 plan.kernel 0 (plan.rest.values.map (·.2.object)) k k' ∧
      plan.globalSize = [4] ∧ plan.rest.localSize = some [2] ∧
      (s.runLine line).2.driver? = some d' ∧ d'.finishes = 1 ∧
      d'.launches = [⟨k.name, [4], some [2], [.bytes [7, 0, 0, 0], .bytes [9, 0, 0, 0]]⟩]) ∧
    (loop (launchItem [4]) {}).run c s = (do
      let sizes ← localSize [4]
      loop (launchItem [4]) { localSize := some sizes }).run c.advance s := by
  intro s line c
  have hs : s.Reached := reached_after _
  have hbefore : s.driver?.map (fun d => (d.launches, d.finishes, d.blocking)) =
      some ([], 0, true) := by decide +kernel
  have hafter : (s.runLine line).2.driver?.map State.launches =
      some [⟨"k", [4], some [2], [.bytes [7, 0, 0, 0], .bytes [9, 0, 0, 0]]⟩] := by decide +kernel
  obtain ⟨d, hd, hnone⟩ := Option.map_eq_some_iff.1 hbefore
  have hcommand : command? (Cursor.ofLine line) = some .run := by decide +kernel
  obtain ⟨hgood, -, hlocal⟩ := hs.run_launches hd hcommand
  obtain ⟨plan, read, k, k', arguments, d', hline, hgave, -, -, hd', hlaunches, hfinishes⟩ :=
    hgood (by decide +kernel)
  obtain ⟨hempty, hzero, hblocking⟩ : d.launches = [] ∧ d.finishes = 0 ∧ d.blocking = true := by
    simpa using hnone
  rw [hd', Option.map_some, hlaunches, hempty] at hafter
  obtain ⟨hname, hglobal, hsize, rfl⟩ : k.name = "k" ∧ plan.globalSize = [4] ∧
      plan.rest.localSize = some [2] ∧ arguments = _ := by simpa using hafter
  refine ⟨⟨plan, read, k, k', d', hline, hgave, hglobal, hsize, hd', ?_, ?_⟩, ?_⟩
  · rw [hfinishes, hzero, hblocking]
    rfl
  · rw [hlaunches, hempty, hglobal, hsize]
    rfl
  · have htokens : c.pending = ⟨.comma, 0, ","⟩ :: ⟨.openParen, 2, "("⟩ :: ⟨.constant, 3, "2"⟩ ::
        c.pending.drop 3 := by decide +kernel
    exact (hlocal (.start _ c s) htokens rfl rfl rfl).1 rfl

/-! ## Lines that fail -/

/-- **A line that fails has still given** what stands in front of the object that it fails at. If
the operands cannot be read no kernel is another one. Otherwise one kernel has been given the
objects in front of the first one that has no place in it; for `run` these may be all of them, if
the sizes do not fit or a slot is empty then. No other kernel is another one. -/
theorem Reached.kernels_of_fail (hs : s.Reached) (hfail : (s.runLine line).1 = .fail) :
    (command? (Cursor.ofLine line) = some .bind →
      (Fails bindOperands (Cursor.ofLine line).advance (s.note (.ran s.depth line)) ∧
        ∀ id, (s.runLine line).2.kernel? id = s.kernel? id) ∨
      ∃ plan read set v later k k',
        BindLine (Cursor.ofLine line).advance (s.note (.ran s.depth line)) plan read ∧
        plan.values = set ++ v :: later ∧
        s.GaveObjects read (s.runLine line).2 plan.kernel plan.first (set.map (·.2.object)) k k' ∧
        k.Rejects (plan.first + set.length) v.2.object) ∧
    (command? (Cursor.ofLine line) = some .run →
      (Fails launchOperands (Cursor.ofLine line).advance (s.note (.ran s.depth line)) ∧
        ∀ id, (s.runLine line).2.kernel? id = s.kernel? id) ∨
      ∃ plan read set rest k k',
        LaunchLine (Cursor.ofLine line).advance (s.note (.ran s.depth line)) plan read ∧
        plan.rest.values = set ++ rest ∧
        s.GaveObjects read (s.runLine line).2 plan.kernel 0 (set.map (·.2.object)) k k' ∧
        ((∃ v later, rest = v :: later ∧ k.Rejects set.length v.2.object) ∨
          rest = [] ∧ (¬ SizesFit plan.globalSize plan.rest.localSize ∨ none ∈ k'.slots))) := by
  refine ⟨fun hcommand => ?_, fun hcommand => ?_⟩
  · obtain ⟨hfails, -, hsame⟩ | ⟨plan, read, set, rest, k, k', hline, heq, hgave, hanswer⟩ :=
      hs.bind_cases hcommand
    · exact .inl ⟨hfails, hsame⟩
    obtain ⟨-, hgood⟩ | ⟨v, later, rfl, hrejects, -⟩ := hanswer
    · rw [hfail] at hgood
      cases hgood
    · exact .inr ⟨plan, read, set, v, later, k, k', hline, heq, hgave, hrejects⟩
  · obtain ⟨hfails, -, -, hsame⟩ | ⟨plan, read, set, rest, k, k', hline, heq, hgave, hanswer⟩ :=
      hs.run_cases hcommand
    · exact .inl ⟨hfails, hsame⟩
    obtain ⟨-, -, hrefused⟩ | ⟨hgood, -⟩ := hanswer
    · exact .inr ⟨plan, read, set, rest, k, k', hline, heq, hgave, hrefused⟩
    · rw [hfail] at hgood
      cases hgood

/-- A kernel with one parameter, which is set. -/
def oneArgument : Session :=
  after ["p = program(\"kernel void k(int a) \x7b \x7d\")", "k = kernel(p, k)", "bind k 0 int(1)"]

/-- Two objects for one parameter: the line fails at the second one, and the kernel has the first
one. -/
theorem first_object_after_failed_bind :
    ∃ plan read set v later k k',
      BindLine (Cursor.ofLine "bind k 0 int(2) int(3)").advance
        (oneArgument.note (.ran oneArgument.depth "bind k 0 int(2) int(3)")) plan read ∧
      plan.values = set ++ v :: later ∧
      oneArgument.GaveObjects read (oneArgument.runLine "bind k 0 int(2) int(3)").2 plan.kernel
        plan.first (set.map (·.2.object)) k k' ∧
      k.Rejects (plan.first + set.length) v.2.object ∧
      k.slots = [some (.bytes [1, 0, 0, 0])] ∧ k'.slots = [some (.bytes [2, 0, 0, 0])] := by
  have hs : oneArgument.Reached := reached_after _
  have hbefore : (oneArgument.kernel? 2).map Kernel.slots = some [some (.bytes [1, 0, 0, 0])] := by
    decide +kernel
  have hafter : ((oneArgument.runLine "bind k 0 int(2) int(3)").2.kernel? 2).map Kernel.slots =
      some [some (.bytes [2, 0, 0, 0])] := by decide +kernel
  have hfail : (oneArgument.runLine "bind k 0 int(2) int(3)").1 = .fail := by decide +kernel
  obtain ⟨-, hsame⟩ | ⟨plan, read, set, v, later, k, k', hline, heq, hgave, hrejects⟩ :=
    (hs.kernels_of_fail hfail).1 (by decide +kernel)
  · rw [hsame, hbefore] at hafter
    cases hafter
  · obtain ⟨hslots, hslots'⟩ := hgave.slots_of_ne hbefore hafter (by decide)
    exact ⟨plan, read, set, v, later, k, k', hline, heq, hgave, hrejects, hslots, hslots'⟩

/-- What a line that fails has left in a slot is what the kernel is launched with. The line may be
one of `bind`, with more objects than there are slots, or one of `run`, with a local size that does
not divide the global one. -/
theorem launched_with_failed_line :
    (oneArgument.kernel? 2).map Kernel.slots = some [some (.bytes [1, 0, 0, 0])] ∧
    ((oneArgument.runLine "bind k 0 int(2) int(3)").1 = .fail ∧
      ((oneArgument.runLine "bind k 0 int(2) int(3)").2.kernel? 2).map Kernel.slots =
        some [some (.bytes [2, 0, 0, 0])] ∧
      ((oneArgument.runLine "bind k 0 int(2) int(3)").2.runLine "run k((1))").2.driver?.map
        State.launches = some [⟨"k", [1], none, [.bytes [2, 0, 0, 0]]⟩]) ∧
    (oneArgument.runLine "run k((3), (2), int(2))").1 = .fail ∧
      ((oneArgument.runLine "run k((3), (2), int(2))").2.kernel? 2).map Kernel.slots =
        some [some (.bytes [2, 0, 0, 0])] ∧
      ((oneArgument.runLine "run k((3), (2), int(2))").2.runLine "run k((1))").2.driver?.map
        State.launches = some [⟨"k", [1], none, [.bytes [2, 0, 0, 0]]⟩] := by
  decide +kernel

end Session

end DriverBench
