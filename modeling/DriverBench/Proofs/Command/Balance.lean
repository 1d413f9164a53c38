import DriverBench.Proofs.Command.Spares
import DriverBench.Proofs.Expression.Balance
/-!
# Every command keeps the balance

A command starts where the drivers keep what the session refers to, and so it ends, whether or not
it fails. What it evaluates it either keeps until the end of the line or binds, and what it takes
away it lets go.
-/

namespace DriverBench

open Device Simulator

namespace Reading

open Session (Keeps)

variable {α β : Type}

/-- A reading goes from balance to balance. -/
def Balances (r : Reading α) : Prop :=
  Ensures (fun s => s.Balanced []) r (fun _ s => s.Balanced []) (fun s => s.Balanced [])

theorem Within.balances {r : Reading α} (h : Within Keeps r) : Balances r :=
  h.balanced []

theorem balances_bind {r : Reading α} {f : α → Reading β} (h : Balances r)
    (hf : ∀ a, Balances (f a)) : Balances (r >>= f) :=
  Ensures.bind h hf

theorem balances_ite {p : Prop} [Decidable p] {r r' : Reading α} (h : Balances r)
    (h' : Balances r') : Balances (if p then r else r') := by
  split <;> assumption

/-- A session in balance that holds what some handles name for the current line. -/
structure Holds (hs : List Handle) (s : Session) : Prop where
  balanced : s.Balanced []
  held : ∀ h ∈ hs, ∃ e ∈ s.temporaries, h ∈ e.handles

theorem Holds.keeps {hs : List Handle} {s s' : Session} (h : Holds hs s) (hk : s.Keeps s') :
    Holds hs s' :=
  ⟨h.balanced.keeps hk, fun k hm => by rw [hk.temporaries]; exact h.held k hm⟩

/-- What the line holds is referred to. -/
theorem Holds.mem_handles {hs : List Handle} {s : Session} (h : Holds hs s) {k : Handle}
    (hk : k ∈ hs) : k ∈ s.handles := by
  obtain ⟨e, he, hek⟩ := h.held k hk
  exact Session.mem_handles.2 ⟨e, Session.mem_held.2 (.inr (.inr he)), Entity.mem_handles.1 hek⟩

theorem Within.holds {r : Reading α} (h : Within Keeps r) (hs : List Handle) :
    Ensures (Holds hs) r (fun _ => Holds hs) (fun s => s.Balanced []) :=
  (h.ensures fun _ _ hs hv => Holds.keeps hv hs).mono (fun _ h => h) (fun _ _ h => h)
    fun _ h => h.balanced

/-- An object that was evaluated is held until the line is done. -/
theorem ensures_evaluateKept (hs : List Handle) :
    Ensures (Holds hs) evaluateKept (fun e => Holds (hs ++ e.handles))
      (fun s => s.Balanced []) := by
  unfold evaluateKept
  refine Ensures.of_each fun s₁ hs₁ => ?_
  have he := Ensures.and denotes_evaluate (within_evaluate.derives s₁)
  refine (he.mono (fun s hs => ?_) (fun _ _ h => h) fun _ h => h.1).bind fun e => ?_
  · rw [hs]
    exact ⟨hs₁.balanced, Frame.refl s₁⟩
  · refine Ensures.bind (Ensures.liftM fun s hs => ?_) fun _ => Ensures.pure fun _ h => h
    refine ⟨hs.1.keep, fun k hm => ?_⟩
    rcases List.mem_append.1 hm with hm | hm
    · obtain ⟨e', he', hk⟩ := hs₁.held k hm
      exact ⟨e', List.mem_append_left _ (by rw [hs.2.temporaries]; exact he'), hk⟩
    · exact ⟨e, List.mem_append_right _ List.mem_cons_self, hm⟩

theorem balances_evaluateKept : Balances evaluateKept :=
  (ensures_evaluateKept []).mono (fun _ h => ⟨h, by simp⟩) (fun _ _ h => h.balanced) fun _ h => h

/-- A kernel has one handle. -/
theorem handles_of_kernel? {e : Entity} {kernel : Handle} {name : String}
    (h : e.object.kernel? = some (kernel, name)) : e.handles = [kernel] := by
  unfold Entity.handles
  cases he : e.object <;> simp_all [Object.kernel?, Object.handle?]

/-- The line holds the kernel that it is about. -/
theorem ensures_kernelOperand :
    Ensures (fun s => s.Balanced []) kernelOperand (fun k => Holds [k.2])
      (fun s => s.Balanced []) := by
  unfold kernelOperand
  refine within_current.balances.bind fun t => ?_
  refine ((ensures_evaluateKept []).mono (fun _ h => ⟨h, by simp⟩) (fun _ _ h => h)
    fun _ h => h).bind fun e => ?_
  split
  · next kernel name hk => exact Ensures.pure fun s h => handles_of_kernel? hk ▸ h
  · exact Ensures.raise fun _ h => h.balanced

theorem ensures_kernelValue (hs : List Handle) :
    Ensures (Holds hs) kernelValue (fun v => Holds (hs ++ v.2.handles))
      (fun s => s.Balanced []) := by
  unfold kernelValue
  refine (within_current.holds hs).bind fun t => ?_
  have hrest : Ensures (Holds hs) (return (t, ← evaluateKept))
      (fun v => Holds (hs ++ v.2.handles)) (fun s => s.Balanced []) :=
    (ensures_evaluateKept hs).bind fun e => Ensures.pure fun _ h => h
  exact Ensures.ite (fun _ => ((within_raise _ _).holds hs).bind fun _ => hrest) fun _ => hrest

/-- The handles of what a kernel is given. -/
def valueHandles (values : List (Token × Entity)) : List Handle :=
  values.flatMap (·.2.handles)

theorem valueHandles_concat (values : List (Token × Entity)) (v : Token × Entity) :
    valueHandles (values ++ [v]) = valueHandles values ++ v.2.handles := by
  simp [valueHandles]

end Reading

namespace Statement

open Reading
open Session (Keeps)

/-! ## Launching kernels -/

theorem within_keeps_setArguments (kernel : Handle) (index : Nat)
    (values : List (Token × Entity)) : Action.Within Keeps (setArguments kernel index values) :=
  within_setArguments (fun _ hc => Action.within_keeps_drive (hc.mono fun _ _ h => h.sameLive))
    kernel index values

theorem ensures_launchItem (kernel : Handle) (globalSize : List Nat) (found : LaunchRest) :
    Ensures (Holds (kernel :: valueHandles found.values)) (launchItem globalSize found)
      (fun step => Holds (kernel :: valueHandles step.value.values))
      (fun s => s.Balanced []) := by
  unfold launchItem
  refine ((within_skip _).holds _).bind fun close => Ensures.ite
    (fun _ => Ensures.pure fun _ h => h) fun _ => ?_
  refine ((within_require _ _).holds _).bind fun _ => ?_
  refine ((within_localSizeAhead found).holds _).bind fun ahead => Ensures.ite (fun _ => ?_)
    fun _ => ?_
  · exact ((within_localSize globalSize).holds _).bind fun sizes => Ensures.pure fun _ h => h
  · refine (ensures_kernelValue _).bind fun v => Ensures.pure fun s h => ?_
    rwa [Step.value, valueHandles_concat]

/-- What was read for a launch is held: its kernel and the objects that it is given. -/
theorem ensures_launchOperands :
    Ensures (fun s => s.Balanced []) launchOperands
      (fun plan => Holds (plan.kernel :: valueHandles plan.rest.values))
      (fun s => s.Balanced []) := by
  unfold launchOperands
  refine ensures_kernelOperand.bind fun k => ?_
  refine ((within_require _ _).holds _).bind fun _ => ?_
  refine (within_workSize.holds _).bind fun globalSize => ?_
  -- What was read so far is held while more is read.
  refine Ensures.bind
    (Ensures.loop (I := fun found : LaunchRest => Holds (k.2 :: valueHandles found.values))
      (ensures_launchItem k.2 globalSize) {}) fun rest => ?_
  exact ((within_warnTrailing _).holds _).bind fun _ => Ensures.pure fun _ h => h

theorem within_keeps_setting (kernel : Handle) (first : Nat) (values : List (Token × Entity)) :
    Within Keeps (setting kernel first values) :=
  within_bind (within_liftM Action.within_activeDriver) fun _ =>
    within_liftM (within_keeps_setArguments kernel first values)

/-- When a launch is ready the line holds its kernel and the objects that it is given. -/
theorem ensures_prepareLaunch :
    Ensures (fun s => s.Balanced []) prepareLaunch
      (fun plan => Holds (plan.kernel :: valueHandles plan.rest.values))
      (fun s => s.Balanced []) := by
  rw [prepareLaunch_eq]
  exact ensures_launchOperands.bind fun plan => ((within_keeps_setting _ _ _).holds _).bind
    fun _ => Ensures.pure fun _ h => h

theorem within_keeps_launch (plan : LaunchPlan) : Action.Within Keeps (Action.drive plan.call) := by
  refine Action.within_keeps_drive ((tries_enqueueKernel _ _ _).within fun d _ d' h => ?_)
  obtain ⟨k, arguments, -, -, rfl⟩ := h
  exact ⟨rfl, Nat.le_refl _, fun _ => Iff.rfl⟩

/-- What a launch uses is referred to until somebody waits. -/
theorem ensures_awaitLaunch_holds {hs : List Handle} {values : List (Token × Entity)}
    (hv : valueHandles values ⊆ hs) :
    Ensures (Holds hs) (awaitLaunch values) (fun _ s => s.Balanced [])
      (fun s => s.Balanced []) := by
  unfold awaitLaunch
  refine ((within_liftM Action.within_activeDriver).holds _).bind fun d => Ensures.ite
    (fun _ => ?_) fun _ => Ensures.change fun s h => ?_
  · have hfinish := within_liftM
      (Action.within_keeps_drive (tries_finish.within fun _ _ _ h => h.sameLive))
    exact (hfinish.holds _).mono (fun _ h => h) (fun _ _ h => h.balanced) fun _ h => h
  · refine h.balanced.launched fun e he k hk => h.mem_handles (hv ?_)
    obtain ⟨v, hm, rfl⟩ := List.mem_map.1 he
    exact List.mem_flatMap.2 ⟨v, hm, hk⟩

theorem balances_run : Balances run := by
  unfold run
  refine ensures_prepareLaunch.bind fun plan => ?_
  refine ((within_liftM (Action.within_atSpan (within_keeps_launch plan) _)).holds _).bind
    fun _ => ?_
  exact (ensures_awaitLaunch_holds (List.subset_cons_self _ _)).bind fun _ =>
    Ensures.pure fun _ h => h

theorem ensures_boundValue (kernel : Handle) (values : List (Token × Entity)) :
    Ensures (Holds (kernel :: valueHandles values)) (boundValue values)
      (fun step => Holds (kernel :: valueHandles step.value)) (fun s => s.Balanced []) := by
  unfold boundValue
  refine ((within_skip _).holds _).bind fun _ => (within_hasMore.holds _).bind fun more => ?_
  refine Ensures.ite (fun _ => Ensures.pure fun _ h => h) fun _ => ?_
  refine (ensures_kernelValue _).bind fun v => Ensures.pure fun s h => ?_
  rwa [Step.value, valueHandles_concat]

/-- What was read for `bind` is held: the kernel and the objects that it is given. -/
theorem ensures_bindOperands :
    Ensures (fun s => s.Balanced []) bindOperands
      (fun plan => Holds (plan.kernel :: valueHandles plan.values)) (fun s => s.Balanced []) := by
  unfold bindOperands
  refine ensures_kernelOperand.bind fun k => ((within_skip _).holds _).bind fun _ => ?_
  refine ((within_numberArgument _ _).holds _).bind fun first => ?_
  refine Ensures.bind
    (Ensures.loop (I := fun values => Holds (k.2 :: valueHandles values))
      (ensures_boundValue k.2) []) fun values => ?_
  refine (within_refuseInvalid.holds _).bind fun _ => ?_
  exact Ensures.ite (fun _ => (within_here.holds _).bind fun _ =>
    ((within_raise _ _).holds _).bind fun _ => Ensures.pure fun _ h => h)
    fun _ => Ensures.pure fun _ h => h

theorem balances_bindArguments : Balances bindArguments := by
  rw [bindArguments_eq]
  exact ensures_bindOperands.bind fun plan => ((within_keeps_setting _ _ _).holds _).bind
    fun _ => Ensures.pure fun _ h => h.balanced

/-! ## Bindings and options -/

/-- A name that an assignment binds is free. -/
theorem ensures_target :
    Ensures (fun s => s.Balanced []) target
      (fun name s => s.Balanced [] ∧ s.env.contains name = false) (fun s => s.Balanced []) := by
  unfold target
  refine within_consume.balances.bind fun t => Ensures.guard (fun _ h => h) fun _ => ?_
  refine Ensures.session_bind fun s hs => Ensures.guard (fun _ h => h ▸ hs) fun hfree =>
    Ensures.pure ?_
  rintro s rfl
  exact ⟨hs, by simpa using hfree⟩

/-- A free name is bound, and what it is bound to is referred to from then on. -/
theorem ensures_bindName (name : String) (e : Entity) :
    Ensures (fun s => s.Balanced e.handles ∧ s.env.contains name = false) (bindName name e)
      (fun _ s => s.Balanced []) (fun _ => False) := by
  unfold bindName
  refine Ensures.session_bind fun s₁ hs => ?_
  split
  · next env henv =>
    refine Ensures.change ?_
    rintro s rfl
    exact hs.1.bind henv
  · next fault hfault => simp [Environment.insert, hs.2] at hfault

theorem balances_assignment : Balances assignment := by
  unfold assignment
  refine ensures_target.bind fun name => ?_
  refine Ensures.of_each fun s₁ hs₁ => ?_
  refine Ensures.bind (Q := fun _ s => s = s₁) (fun _ _ h => h) fun _ => ?_
  have he := Ensures.and denotes_evaluate (within_evaluate.derives s₁)
  refine (he.mono (fun s hs => ?_) (fun _ _ h => h) fun _ h => h.1).bind fun e => ?_
  · rw [hs]
    exact ⟨hs₁.1, Frame.refl s₁⟩
  have hkeep : ∀ s, s.Balanced e.handles ∧ s₁.Derives s →
      s.Balanced e.handles ∧ s.env.contains name = false := fun s hs =>
    ⟨hs.1, by rw [hs.2.env]; exact hs₁.2⟩
  refine Ensures.bind (Q := fun _ s => s.Balanced e.handles ∧ s₁.Derives s) (fun _ _ h => h)
    fun t => Ensures.ite (fun _ => ?_) fun _ => ?_
  · refine Ensures.bind (Ensures.change (Q := fun _ s => s.Balanced []) fun s hs => ?_) fun _ => ?_
    · exact Session.Balanced.letGo (by simpa using hs.1) (by simp)
    · refine within_cursor.balances.bind fun c => ?_
      exact Ensures.bind (Q := fun _ _ => False) (Ensures.raise fun _ h => h) fun _ _ _ h => h.elim
  · refine Ensures.bind ((ensures_bindName name e).mono hkeep (fun _ _ h => h) fun _ h => h.elim)
      fun _ => (within_pure _).balances

theorem balances_release : Balances release := by
  unfold release
  refine balances_bind within_hasMore.balances fun more => ?_
  extract_lets rest
  have hrest : ∀ u, Balances (rest u) := fun _ => by
    refine balances_bind (within_loop within_releasedName []).balances fun names => ?_
    refine balances_bind within_refuseInvalid.balances fun _ => ?_
    refine Ensures.session_bind fun s hs => ?_
    split
    · exact Ensures.liftM (Action.Ensures.raise fun _ h => h ▸ hs)
    · next count s' hu =>
      exact Ensures.replace (hs.unbind hu) <|
        balances_bind (within_liftM (Action.within_note _)).balances fun _ =>
          (within_pure _).balances
  exact balances_ite (balances_bind within_here.balances fun _ =>
    balances_bind (within_raise _ _).balances hrest) (hrest ())

theorem balances_settings : Balances settings := by
  unfold settings changeSetting
  refine balances_bind within_hasMore.balances fun more => ?_
  refine balances_ite ?_ within_showSettings.balances
  refine balances_bind (within_choice _ _ _).balances fun setting => ?_
  refine balances_bind within_truthValue.balances fun value => ?_
  refine balances_bind (within_warnTrailing _).balances fun _ => ?_
  refine Ensures.bind (Ensures.change fun s hs => ?_) fun _ => (within_pure _).balances
  exact hs.keeps (Session.keeps_configure s setting value)

/-! ## The driver and files -/

/-- What a reading that keeps everything does to a session between two lines. -/
theorem idle_of_keeps {α : Type} {r : Reading α} (h : Within Keeps r) :
    Ensures Session.Idle r (fun _ => Session.Idle) (fun s => s.Balanced []) :=
  (h.ensures fun _ _ hs hi => hi.keeps hs).mono (fun _ h => h) (fun _ _ h => h)
    fun _ h => h.balanced

theorem ensures_load :
    Ensures Session.Idle load (fun _ s => s.Balanced []) (fun s => s.Balanced []) := by
  unfold load
  refine (idle_of_keeps within_libraryArgument).bind fun library => ?_
  refine (idle_of_keeps (within_warnTrailing _)).bind fun _ => ?_
  split
  · exact Ensures.throw fun _ h => h.balanced
  · refine Ensures.session_bind fun s hs =>
      Ensures.replace (I := fun s => s.Balanced []) hs.setDriver.balanced ?_
    refine balances_bind (within_liftM (Action.within_note _)).balances fun _ => ?_
    exact balances_bind (within_noteCleared _).balances fun _ => (within_pure _).balances

theorem balances_select : Balances select := by
  unfold select changeSelection
  refine balances_bind within_hasMore.balances fun more => ?_
  refine balances_ite ?_ within_showSelection.balances
  refine balances_bind (within_choice _ _ _).balances fun target => ?_
  refine balances_bind (within_sizeArgument _).balances fun index => ?_
  refine balances_bind (within_warnTrailing _).balances fun _ => ?_
  refine balances_bind (within_liftM Action.within_activeDriver).balances fun _ => ?_
  refine balances_bind (within_liftM (Action.within_atSpan (Action.within_keeps_drive
    ((tries_select target _).within fun _ _ _ h => h.sameLive)) _)).balances fun _ => ?_
  refine Ensures.session_bind fun s hs =>
    Ensures.replace (I := fun s => s.Balanced []) hs.invalidate ?_
  refine balances_bind (within_liftM (Action.within_note _)).balances fun _ => ?_
  exact balances_bind (within_noteCleared _).balances fun _ => (within_pure _).balances

theorem balances_wait : Balances wait := by
  unfold wait
  refine balances_bind (within_warnTrailing _).balances fun _ => ?_
  refine balances_bind (within_liftM (Action.within_keeps_drive
    (tries_finish.within fun _ _ _ h => h.sameLive))).balances fun _ => ?_
  exact Ensures.bind (Ensures.change fun s hs => hs.wait) fun _ => (within_pure _).balances

theorem balances_flush : Balances flush := by
  unfold flush
  refine balances_bind (within_warnTrailing _).balances fun _ => ?_
  exact balances_bind (within_liftM (Action.within_keeps_drive
    (tries_flush.within fun _ _ _ h => h.sameLive))).balances fun _ => (within_pure _).balances

theorem balances_save : Balances save := by
  unfold save
  refine balances_bind within_current.balances fun t => balances_bind balances_evaluateKept
    fun e => ?_
  refine balances_bind within_pathArgument.balances fun path => ?_
  refine balances_bind (within_warnTrailing _).balances fun _ => ?_
  refine balances_bind (within_liftM (Action.within_atSpan (within_fileBytes (fun c hc => ?_) _ _)
    _)).balances fun bytes => ?_
  · exact Action.within_keeps_drive (hc.mono fun d d' h => by rw [h]; exact Frame.refl d)
  · refine balances_bind
      (within_liftM (Action.within_atSpan (within_writeFile (fun s files => ?_) _ _) _)).balances
      fun _ => ?_
    · exact ⟨fun _ => Iff.rfl, rfl, rfl, Frame.refl s.fleet⟩
    exact balances_bind (within_liftM (Action.within_note _)).balances fun _ =>
      (within_pure _).balances

/-! ## Lines -/

/-- A way to run scripts leads from between two lines to between two lines. -/
def KeepsIdle (runner : ScriptRunner) : Prop :=
  ∀ source, Action.Ensures Session.Idle (runner source) (fun _ => Session.Idle) Session.Idle

theorem ensures_script {runner : ScriptRunner} (hr : KeepsIdle runner) :
    Ensures Session.Idle (script runner) (fun _ s => s.Balanced []) (fun s => s.Balanced []) := by
  unfold script
  refine (idle_of_keeps within_pathArgument).bind fun path => ?_
  refine (idle_of_keeps (within_warnTrailing _)).bind fun _ => ?_
  refine (idle_of_keeps within_session).bind fun s => ?_
  split
  · exact Ensures.raise fun _ h => h.balanced
  · exact Ensures.liftM (((hr _).atSpan _).mono (fun _ h => h) (fun _ _ h => h.balanced)
      fun _ h => h.balanced)

/-- **Every command** leads from between two lines to a session in balance. -/
theorem ensures_perform {runner : ScriptRunner} (hr : KeepsIdle runner) (c : Command) :
    Ensures Session.Idle (perform runner c) (fun _ s => s.Balanced [])
      (fun s => s.Balanced []) := by
  have hof : ∀ {r : Reading Outcome}, Balances r →
      Ensures Session.Idle r (fun _ s => s.Balanced []) (fun s => s.Balanced []) := fun h =>
    h.mono (fun _ hs => hs.balanced) (fun _ _ h => h) fun _ h => h
  cases c with
  | load => exact ensures_load
  | select => exact hof balances_select
  | info => exact hof within_info.balances
  | list => exact hof within_list.balances
  | set => exact hof balances_settings
  | release => exact hof balances_release
  | save => exact hof balances_save
  | run => exact hof balances_run
  | script => exact ensures_script hr
  | wait => exact hof balances_wait
  | flush => exact hof balances_flush
  | bind => exact hof balances_bindArguments
  | help => exact hof within_help.balances
  | quit => exact hof within_quit.balances

theorem ensures_execute {runner : ScriptRunner} (hr : KeepsIdle runner) :
    Ensures Session.Idle (execute runner) (fun _ s => s.Balanced []) (fun s => s.Balanced []) := by
  unfold execute
  refine (idle_of_keeps within_cursor).bind fun c => ?_
  split
  · exact Ensures.pure fun _ h => h.balanced
  · exact Ensures.throw fun _ h => h.balanced
  · refine Ensures.ite (fun _ => ?_) fun _ => ?_
    · exact balances_assignment.mono (fun _ h => h.balanced) (fun _ _ h => h) fun _ h => h
    · exact (idle_of_keeps within_commandName).bind fun c => ensures_perform hr c

end Statement

namespace Session

open Statement (KeepsIdle)

/-- **Executing a line** leads from between two lines to between two lines, whether or not it
fails. -/
theorem Idle.executeWith {s : Session} (h : s.Idle) {runner : ScriptRunner} (hr : KeepsIdle runner)
    (line : String) : (Session.executeWith runner line s).2.Idle := by
  have hx := Statement.ensures_execute hr (Cursor.ofLine line) s h
  unfold Session.executeWith
  rcases hrun : (Statement.execute runner).run (Cursor.ofLine line) s with ⟨⟨a | a, c⟩, s'⟩ <;>
  · rw [hrun] at hx
    exact hx.idle_dropTemporaries

theorem keeps_note (s : Session) (e : Event) : s.Keeps (s.note e) :=
  ⟨fun _ => Iff.rfl, rfl, rfl, Frame.refl s.fleet⟩

theorem keeps_report (s : Session) (line : String) (f : Failure) : s.Keeps (s.report line f) :=
  ⟨fun _ => Iff.rfl, rfl, rfl, Frame.refl s.fleet⟩

theorem Idle.runLineWith {s : Session} (h : s.Idle) {runner : ScriptRunner} (hr : KeepsIdle runner)
    (line : String) : (Session.runLineWith runner line s).2.Idle := by
  have hx := (h.keeps (keeps_note s (.ran s.depth line))).executeWith hr line
  unfold Session.runLineWith
  dsimp only
  rcases hrun : Session.executeWith runner line (s.note (.ran s.depth line)) with ⟨f | o, s'⟩
  · rw [hrun] at hx
    exact hx.keeps (keeps_report s' line f)
  · rw [hrun] at hx
    exact hx

end Session

end DriverBench
