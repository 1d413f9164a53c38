import DriverBench.Proofs.Expression.Spares
import DriverBench.Proofs.Session.Operations
/-!
# A command that fails takes nothing away

A command first reads, and reading takes nothing away. Then it does what it is for, and behind that
there is nothing left that can fail but a note on the output, which goes through on a stream that
works. So whichever command it is and wherever it fails, the session is spared (`FailsSparing`).
-/

namespace DriverBench

open Device Simulator

namespace Session

/-- Both streams take what is written to them. -/
def Unbroken (s : Session) : Prop :=
  s.out.broken = none ∧ s.err.broken = none

theorem Spares.unbroken {s s' : Session} (h : s.Spares s') (hs : s.Unbroken) : s'.Unbroken :=
  ⟨h.out.trans hs.1, h.err.trans hs.2⟩

end Session

namespace Reading

open Session (Spares Derives Unbroken)

variable {α β : Type}

/-- A reading that fails where the streams work has spared the session. -/
def FailsSparing (r : Reading α) : Prop :=
  ∀ s₀ : Session, s₀.Unbroken → Ensures (fun s => s = s₀) r (fun _ => Unbroken) s₀.Spares

/-- A reading goes through where the streams work. -/
def Succeeds (r : Reading α) : Prop :=
  Ensures Unbroken r (fun _ => Unbroken) (fun _ => False)

theorem Within.failsSparing {r : Reading α} (h : Within Spares r) : FailsSparing r :=
  fun s₀ hs₀ => (h.ensures (P := s₀.Spares) fun _ _ hs h₀ => Frame.trans h₀ hs).mono
    (fun s hs => hs ▸ Frame.refl s) (fun _ _ h => h.unbroken hs₀) fun _ h => h

theorem Succeeds.failsSparing {r : Reading α} (h : Succeeds r) : FailsSparing r :=
  fun _ hs₀ => h.mono (fun _ hs => hs ▸ hs₀) (fun _ _ h => h) fun _ h => h.elim

/-- Reading goes before. -/
theorem failsSparing_bind {r : Reading α} {f : α → Reading β} (h : Within Spares r)
    (hf : ∀ a, FailsSparing (f a)) : FailsSparing (r >>= f) := by
  intro s₀ hs₀
  have hr := (h.ensures (P := s₀.Spares) fun _ _ hs h₀ => Frame.trans h₀ hs).mono
    (fun s (hs : s = s₀) => hs ▸ Frame.refl s) (fun _ _ h => h) fun _ h => h
  refine hr.bind fun a => Ensures.of_each fun s₁ hs₁ => ?_
  exact (hf a s₁ (hs₁.unbroken hs₀)).mono (fun _ h => h) (fun _ _ h => h)
    fun _ h => Frame.trans hs₁ h

/-- What cannot fail comes behind. -/
theorem FailsSparing.bind {r : Reading α} {f : α → Reading β} (h : FailsSparing r)
    (hf : ∀ a, Succeeds (f a)) : FailsSparing (r >>= f) := fun s₀ hs₀ =>
  (h s₀ hs₀).bind fun a => (hf a).mono (fun _ h => h) (fun _ _ h => h) fun _ h => h.elim

theorem failsSparing_ite {p : Prop} [Decidable p] {r r' : Reading α} (h : FailsSparing r)
    (h' : FailsSparing r') : FailsSparing (if p then r else r') := by
  split <;> assumption

/-! ## What goes through on streams that work -/

theorem succeeds_pure (a : α) : Succeeds (pure a) := Ensures.pure fun _ h => h

theorem Succeeds.bind {r : Reading α} {f : α → Reading β} (h : Succeeds r)
    (hf : ∀ a, Succeeds (f a)) : Succeeds (r >>= f) :=
  Ensures.bind h hf

theorem succeeds_change {f : Session → Session}
    (h : ∀ s, (f s).out = s.out ∧ (f s).err = s.err) : Succeeds (change f) :=
  Ensures.change fun s hs => ⟨(h s).1 ▸ hs.1, (h s).2 ▸ hs.2⟩

theorem ensures_print (text : String) :
    Action.Ensures Unbroken (Action.print text) (fun _ => Unbroken) (fun _ => False) := by
  intro s hs
  unfold Action.print
  rw [Action.run_get_bind, Sink.write, hs.1]
  exact ⟨rfl, hs.2⟩

theorem ensures_printError (text : String) :
    Action.Ensures Unbroken (Action.printError text) (fun _ => Unbroken) (fun _ => False) := by
  intro s hs
  unfold Action.printError
  rw [Action.run_get_bind, Sink.write, hs.2]
  exact ⟨hs.1, rfl⟩

theorem ensures_note (text : String) :
    Action.Ensures Unbroken (Action.note text) (fun _ => Unbroken) (fun _ => False) := by
  have hget : Action.Ensures Unbroken (get : Action Session) (fun _ => Unbroken)
      (fun _ => False) := fun _ h => h
  unfold Action.note
  refine hget.bind fun s => ?_
  split
  · exact ensures_print _
  · exact Action.Ensures.pure fun _ h => h

theorem succeeds_note (text : String) : Succeeds (Action.note text) :=
  Ensures.liftM (ensures_note text)

theorem succeeds_noteCleared (count : Nat) : Succeeds (noteCleared count) := by
  unfold noteCleared
  split
  · exact succeeds_note _
  · exact succeeds_pure _

/-- What is done with the session that is there. -/
theorem failsSparing_session {f : Session → Reading α}
    (h : ∀ s : Session, s.Unbroken →
      Ensures (fun s' => s' = s) (f s) (fun _ => Unbroken) s.Spares) :
    FailsSparing (session >>= f) := by
  refine fun s₀ hs₀ => Ensures.session_bind fun s hs => ?_
  subst hs
  exact h s hs₀

/-- The session gives way to another one with the same streams. -/
theorem ensures_replace {s s' : Session} {r : Reading α} (hs : s.Unbroken)
    (ho : s'.out = s.out ∧ s'.err = s.err) (hr : Succeeds r) :
    Ensures (fun s₁ => s₁ = s) (change (fun _ => s') >>= fun _ => r) (fun _ => Unbroken)
      (fun _ => False) :=
  Ensures.replace (I := Unbroken) ⟨ho.1 ▸ hs.1, ho.2 ▸ hs.2⟩ hr

/-! ## What is read before a command takes effect -/

section Within

variable {R : Session → Session → Prop} [Session.ReadFrame R]

theorem within_evaluateKept : Within R evaluateKept := by
  unfold evaluateKept
  refine within_bind (within_builds_evaluate.mono Session.ReadFrame.of_builds) fun e => ?_
  exact within_bind (within_liftM fun s => Session.ReadFrame.of_keep s _) fun _ => within_pure _

theorem within_kernelOperand : Within R kernelOperand := by
  unfold kernelOperand
  refine within_bind within_current fun t => within_bind within_evaluateKept fun e => ?_
  split <;> simp

theorem within_kernelValue : Within R kernelValue := by
  unfold kernelValue
  refine within_bind within_current fun t => within_when (within_raise _ _) ?_
  exact within_bind within_evaluateKept fun e => within_pure _

end Within

end Reading

namespace Statement

open Reading
open Session (Spares Derives Unbroken)

section Within

variable {R : Session → Session → Prop} [Session.ReadFrame R]

theorem within_launchItem (globalSize : List Nat) (found : LaunchRest) :
    Within R (launchItem globalSize found) := by
  unfold launchItem
  refine within_bind (within_skip _) fun close => within_ite (within_pure _) ?_
  refine within_bind (within_require _ _) fun _ => ?_
  refine within_bind (within_localSizeAhead found) fun ahead => within_ite ?_ ?_
  · exact within_bind (within_localSize globalSize) fun sizes => within_pure _
  · exact within_bind within_kernelValue fun value => within_pure _

theorem within_boundValue (values : List (Token × Entity)) :
    Within R (boundValue values) := by
  unfold boundValue
  refine within_bind (within_skip _) fun _ => within_bind within_hasMore fun more => ?_
  exact within_ite (within_pure _) (within_bind within_kernelValue fun value => within_pure _)

end Within

/-! ## What stands in front of setting arguments -/

/-- Arguments that are to be set: those of a kernel, from a number on. -/
structure BindPlan where
  kernel : Handle
  first : Nat
  values : List (Token × Entity)

/-- What `bind` reads before it sets anything. -/
def bindOperands : Reading BindPlan := do
  let (_, kernel) ← kernelOperand
  let _ ← skip .comma
  let (first, _) ← numberArgument .uint "引数番号"
  let values ← loop boundValue []
  refuseInvalid
  if values.isEmpty then raise .bindObjectsRequired (← here)
  return { kernel, first, values }

/-- What `run` reads before it sets anything. -/
def launchOperands : Reading LaunchPlan := do
  let (token, kernel) ← kernelOperand
  let _ ← require .openParen .launchParenRequired
  let globalSize ← workSize
  let rest ← loop (launchItem globalSize) {}
  warnTrailing .run
  return { token, kernel, globalSize, rest }

/-- What both commands do when they have read what stands on their lines: they set arguments. -/
def setting (kernel : Handle) (first : Nat) (values : List (Token × Entity)) : Reading Unit := do
  let _ ← Action.activeDriver
  setArguments kernel first values

theorem bindArguments_eq : bindArguments = (do
    let plan ← bindOperands
    setting plan.kernel plan.first plan.values
    return .good) := by
  unfold bindArguments bindOperands setting
  simp only [bind_assoc]
  refine bind_congr fun k => bind_congr fun _ => bind_congr fun first => bind_congr fun values => ?_
  refine bind_congr fun _ => ?_
  split
  · simp only [bind_assoc]
    refine bind_congr fun _ => ?_
    rfl
  · simp only [pure_bind]

theorem prepareLaunch_eq : prepareLaunch = (do
    let plan ← launchOperands
    setting plan.kernel 0 plan.rest.values
    return plan) := by
  unfold prepareLaunch launchOperands setting
  simp only [bind_assoc, pure_bind]

section Operands

variable {R : Session → Session → Prop} [Session.ReadFrame R]

theorem within_bindOperands : Within R bindOperands := by
  unfold bindOperands
  refine within_bind within_kernelOperand fun k => within_bind (within_skip _) fun _ => ?_
  refine within_bind (within_numberArgument _ _) fun first => ?_
  refine within_bind (within_loop within_boundValue []) fun values => ?_
  refine within_bind within_refuseInvalid fun _ => ?_
  exact within_ite (within_bind within_here fun _ => within_bind (within_raise _ _) fun _ =>
    within_pure _) (within_pure _)

theorem within_launchOperands : Within R launchOperands := by
  unfold launchOperands
  refine within_bind within_kernelOperand fun k => within_bind (within_require _ _) fun _ => ?_
  refine within_bind within_workSize fun globalSize => ?_
  refine within_bind (within_loop (within_launchItem globalSize) {}) fun rest => ?_
  exact within_bind (within_warnTrailing _) fun _ => within_pure _

end Operands

/-- Arguments are set one after the other, and no argument counts among what is spared. -/
theorem within_setArguments {R : Session → Session → Prop} [Frame R]
    (hR : ∀ c : Call Unit, Action.Within State.Alike c → Action.Within R (Action.drive c))
    (kernel : Handle) (index : Nat) (values : List (Token × Entity)) :
    Action.Within R (setArguments kernel index values) := by
  induction values generalizing index with
  | nil => exact Action.within_pure _
  | cons v rest ih =>
    obtain ⟨t, e⟩ := v
    unfold setArguments
    split
    · exact Action.within_throw _
    · exact Action.within_bind (Action.within_atSpan (hR _ (within_setArgument _ _ _)) _)
        fun _ => ih (index + 1)

/-- What comes behind the arguments of a launch. -/
theorem within_preparedLaunch (token : Token) (kernel : Handle) (globalSize : List Nat)
    (rest : LaunchRest) : Within Spares (do
      warnTrailing .run
      let _ ← Action.activeDriver
      setArguments kernel 0 rest.values
      return ({ token, kernel, globalSize, rest } : LaunchPlan)) := by
  refine within_bind (within_warnTrailing _) fun _ => ?_
  refine within_bind (within_liftM Action.within_activeDriver) fun _ => ?_
  refine within_bind (within_liftM (within_setArguments (fun c hc => ?_) _ _ _)) fun _ =>
    within_pure _
  exact (Action.within_derives_drive (hc.mono fun _ _ h => h.grown)).mono fun _ _ h => h.toSpares

/-- What comes behind the kernel of a launch. -/
theorem within_launchOf (token : Token) (kernel : Handle) : Within Spares (do
      let _ ← require .openParen .launchParenRequired
      let globalSize ← workSize
      let rest ← loop (launchItem globalSize) {}
      warnTrailing .run
      let _ ← Action.activeDriver
      setArguments kernel 0 rest.values
      return ({ token, kernel, globalSize, rest } : LaunchPlan)) := by
  refine within_bind (within_require _ _) fun _ => within_bind within_workSize fun globalSize => ?_
  refine within_bind (within_loop (within_launchItem globalSize) {}) fun rest => ?_
  exact within_preparedLaunch token kernel globalSize rest

theorem within_prepareLaunch : Within Spares prepareLaunch := by
  unfold prepareLaunch
  exact within_bind within_kernelOperand fun k => within_launchOf k.1 k.2

/-- What comes behind the objects that are to be bound. -/
theorem within_boundArguments (kernel : Handle) (first : Nat) (values : List (Token × Entity)) :
    Within Spares (do
      refuseInvalid
      if values.isEmpty then raise .bindObjectsRequired (← here)
      let _ ← Action.activeDriver
      setArguments kernel first values
      return Outcome.good) := by
  refine within_bind within_refuseInvalid fun _ => ?_
  extract_lets rest
  have hrest : ∀ u, Within Spares (rest u) := fun _ => by
    refine within_bind (within_liftM Action.within_activeDriver) fun _ => ?_
    refine within_bind (within_liftM (within_setArguments (fun c hc => ?_) _ _ _)) fun _ =>
      within_pure _
    exact (Action.within_derives_drive (hc.mono fun _ _ h => h.grown)).mono
      fun _ _ h => h.toSpares
  exact within_ite (within_bind within_here fun _ => within_bind (within_raise _ _) hrest)
    (hrest ())

/-- What comes behind the kernel whose arguments are bound. -/
theorem within_bindArgumentsOf (kernel : Handle) : Within Spares (do
      let _ ← skip .comma
      let (first, _) ← numberArgument .uint "引数番号"
      let values ← loop boundValue []
      refuseInvalid
      if values.isEmpty then raise .bindObjectsRequired (← here)
      let _ ← Action.activeDriver
      setArguments kernel first values
      return Outcome.good) := by
  refine within_bind (within_skip _) fun _ => ?_
  refine within_bind (within_numberArgument _ _) fun first => ?_
  refine within_bind (within_loop within_boundValue []) fun values => ?_
  exact within_boundArguments kernel first.1 values

theorem within_bindArguments : Within Spares bindArguments := by
  unfold bindArguments
  exact within_bind within_kernelOperand fun k => within_bindArgumentsOf k.2

/-! ## Commands -/

theorem failsSparing_bindName (name : String) (e : Entity) : FailsSparing (bindName name e) := by
  unfold bindName
  refine failsSparing_bind within_session fun s => ?_
  split
  · exact (succeeds_change fun _ => ⟨rfl, rfl⟩).failsSparing
  · exact (within_liftM (Action.within_raise _)).failsSparing

theorem failsSparing_assignment : FailsSparing assignment := by
  unfold assignment
  refine failsSparing_bind within_target fun name => failsSparing_bind within_advance fun _ => ?_
  refine failsSparing_bind (within_evaluate.mono fun _ _ h => h.toSpares) fun e => ?_
  refine failsSparing_bind within_current fun t => ?_
  have hbind := (failsSparing_bindName name e).bind fun _ => succeeds_pure Outcome.good
  refine failsSparing_ite ?_ hbind
  refine failsSparing_bind (fun _ s => (Session.builds_letGo s [e]).toSpares) fun _ => ?_
  exact failsSparing_bind within_cursor fun c => failsSparing_bind (within_raise _ _) fun _ => hbind

/-- The bindings are released for all names or for none. -/
theorem failsSparing_release : FailsSparing release := by
  unfold release
  refine failsSparing_bind within_hasMore fun more => ?_
  extract_lets rest
  have hrest : ∀ u, FailsSparing (rest u) := fun _ => by
    refine failsSparing_bind (within_loop within_releasedName []) fun names => ?_
    refine failsSparing_bind within_refuseInvalid fun _ => ?_
    refine failsSparing_session fun s hs => ?_
    split
    · exact Ensures.liftM (Action.Ensures.raise fun s' h => by rw [h]; exact Frame.refl s)
    · next count s' hu =>
      have ho : s'.out = s.out ∧ s'.err = s.err := by
        obtain ⟨env, fleet, rfl⟩ := Session.unbind_eq hu
        exact ⟨rfl, rfl⟩
      exact (ensures_replace hs ho ((succeeds_note _).bind fun _ => succeeds_pure _)).mono
        (fun _ h => h) (fun _ _ h => h) fun _ h => h.elim
  refine failsSparing_ite (failsSparing_bind within_here fun _ => ?_) (hrest ())
  exact failsSparing_bind (within_raise _ _) hrest

theorem failsSparing_settings : FailsSparing settings := by
  unfold settings changeSetting
  refine failsSparing_bind within_hasMore fun more => ?_
  refine failsSparing_ite ?_ within_showSettings.failsSparing
  refine failsSparing_bind (within_choice _ _ _) fun setting => ?_
  refine failsSparing_bind within_truthValue fun value => ?_
  refine failsSparing_bind (within_warnTrailing _) fun _ => Succeeds.failsSparing ?_
  refine (succeeds_change fun s => ?_).bind fun _ => succeeds_pure _
  obtain ⟨fleet, heq, -⟩ := Session.configure_eq s setting value
  rw [heq]
  exact ⟨rfl, rfl⟩

theorem failsSparing_load : FailsSparing load := by
  unfold load
  refine failsSparing_bind within_libraryArgument fun library => ?_
  refine failsSparing_bind (within_warnTrailing _) fun _ => ?_
  split
  · exact (within_throw _).failsSparing
  · refine Succeeds.failsSparing (Ensures.session_bind fun s hs => ?_)
    have ho : s.setDriver.2.out = s.out ∧ s.setDriver.2.err = s.err := by
      obtain ⟨active, fleet, heq⟩ := Session.setDriver_eq s
      rw [heq]
      exact ⟨rfl, rfl⟩
    refine ensures_replace hs ho ?_
    exact (succeeds_note _).bind fun _ => (succeeds_noteCleared _).bind fun _ => succeeds_pure _

theorem tries_select (target : SelectionTarget) (index : Nat) :
    Tries (target.select index) fun d _ d' => d.SameTables d' := by
  cases target
  · exact tries_selectPlatform index
  · exact tries_selectDevice index

/-- A driver call that changes nothing when it fails. -/
theorem ensures_drive_sparing {α : Type} {c : Call α} {Q : State → α → State → Prop}
    (hc : Tries c Q) {s₀ : Session} (hs₀ : s₀.Unbroken) :
    Action.Ensures (fun s => s = s₀) (Action.drive c)
      (fun _ s => s.Unbroken ∧ s.driver?.isSome) s₀.Spares := by
  refine Action.Ensures.drive (fun s hs _ => hs ▸ Frame.refl s) fun s n d hs hn hd => ?_
  subst hs
  have h := hc d d rfl
  rcases hr : c.run.run d with ⟨e | a, d'⟩
  · rw [hr] at h
    obtain rfl : d' = d := h
    exact (Action.derives_withDriver hd (Frame.refl d')).toSpares
  · refine ⟨hs₀, ?_⟩
    change (s.active.bind (s.fleet.modify n fun _ => d').get?).isSome
    rw [hn, Option.bind_some, Fleet.get?_modify, if_pos rfl, hd]
    rfl

theorem failsSparing_select : FailsSparing select := by
  unfold select changeSelection
  refine failsSparing_bind within_hasMore fun more => ?_
  refine failsSparing_ite ?_ within_showSelection.failsSparing
  refine failsSparing_bind (within_choice _ _ _) fun target => ?_
  refine failsSparing_bind (within_sizeArgument _) fun index => ?_
  refine failsSparing_bind (within_warnTrailing _) fun _ => ?_
  refine failsSparing_bind (within_liftM Action.within_activeDriver) fun _ s₀ hs₀ => ?_
  refine (Ensures.liftM ((ensures_drive_sparing (tries_select target _) hs₀).atSpan _)).bind
    fun _ => ?_
  -- Behind the call nothing is left that can fail.
  have hrest : Succeeds (do
      let invalidated := (← session).invalidate
      change fun _ => invalidated.2
      Action.note s!"{target.name} {index.1} を選択しました"
      noteCleared invalidated.1
      return Outcome.good) := by
    refine Ensures.session_bind fun s hs => ?_
    have ho : s.invalidate.2.out = s.out ∧ s.invalidate.2.err = s.err := by
      obtain ⟨fleet, heq⟩ := Session.invalidate_eq s
      rw [heq]
      exact ⟨rfl, rfl⟩
    refine ensures_replace hs ho ?_
    exact (succeeds_note _).bind fun _ => (succeeds_noteCleared _).bind fun _ => succeeds_pure _
  exact Ensures.mono hrest (fun _ h => h.1) (fun _ _ h => h) fun _ h => h.elim

theorem failsSparing_wait : FailsSparing wait := by
  unfold wait
  refine failsSparing_bind (within_warnTrailing _) fun _ s₀ hs₀ => ?_
  refine (Ensures.liftM (ensures_drive_sparing tries_finish hs₀)).bind fun _ => ?_
  have hrest : Succeeds (do
      change fun s => { s with inFlight := [] }.letGo s.inFlight
      return Outcome.good) := by
    refine (succeeds_change fun s => ?_).bind fun _ => succeeds_pure _
    obtain ⟨fleet, heq, -⟩ := Session.letGo_eq { s with inFlight := [] } s.inFlight
    rw [heq]
    exact ⟨rfl, rfl⟩
  exact Ensures.mono hrest (fun _ h => h.1) (fun _ _ h => h) fun _ h => h.elim

theorem failsSparing_flush : FailsSparing flush := by
  unfold flush
  refine failsSparing_bind (within_warnTrailing _) fun _ s₀ hs₀ => ?_
  exact (Ensures.liftM (ensures_drive_sparing tries_flush hs₀)).bind fun _ =>
    Ensures.pure fun _ h => h.1

/-- What is to be saved is read from the session and from the driver. -/
theorem within_fileBytes {R : Session → Session → Prop} [Frame R]
    (hR : ∀ c : Call (List UInt8), Action.Within (fun d d' => d' = d) c →
      Action.Within R (Action.drive c)) (path : String) (o : Object) :
    Action.Within R (fileBytes path o) := by
  have himage : ∀ format desc bytes, Action.Within R (imageFile path format desc bytes) := by
    intro format desc bytes
    unfold imageFile
    refine Action.within_bind Action.within_get fun s => ?_
    split
    · exact Action.within_raise _
    · exact Action.within_pure _
    · exact Action.within_pure _
  have hmemory : ∀ m, Action.Within R (memoryFile path m) := by
    intro m
    unfold memoryFile
    split
    · exact Action.within_raise _
    · split
      · exact Action.within_bind (hR _ (within_readImage _ _ _ _)) fun bytes => himage _ _ _
      · exact hR _ (within_readBuffer _ _ _)
  cases o with
  | data d => exact Action.within_pure _
  | image i => exact himage _ _ _
  | memory m => exact hmemory m
  | program h => exact hR _ (within_programBinary h)
  | kernel h name => exact Action.within_raise _

/-- Writing a file is a matter of the files. -/
theorem within_writeFile {R : Session → Session → Prop} [Frame R]
    (hR : ∀ (s : Session) files, R s { s with files }) (path : String) (bytes : List UInt8) :
    Action.Within R (writeFile path bytes) := by
  intro s
  unfold writeFile
  rw [Action.run_get_bind]
  cases s.files.write path bytes with
  | ok files => exact hR s files
  | error e => exact Frame.refl s

theorem failsSparing_writeFile (path : String) (bytes : List UInt8) (span : Span) :
    FailsSparing (liftM ((writeFile path bytes).atSpan span)) := by
  intro s₀ hs₀
  refine Ensures.liftM (Action.Ensures.atSpan ?_ span)
  rintro s rfl
  unfold writeFile
  rw [Action.run_get_bind]
  cases hw : s.files.write path bytes with
  | ok files => exact hs₀
  | error e => exact Frame.refl s

theorem failsSparing_save : FailsSparing save := by
  unfold save
  refine failsSparing_bind within_current fun t => failsSparing_bind within_evaluateKept fun e => ?_
  refine failsSparing_bind within_pathArgument fun path => ?_
  refine failsSparing_bind (within_warnTrailing _) fun _ => ?_
  refine failsSparing_bind
    (within_liftM (Action.within_atSpan (within_fileBytes (fun c hc => ?_) _ _) _)) fun bytes => ?_
  · refine (Action.within_derives_drive ?_).mono fun _ _ h => h.toSpares
    exact hc.mono fun d d' h => by rw [h]; exact Frame.refl d
  · exact (failsSparing_writeFile _ _ _).bind fun _ => (succeeds_note _).bind fun _ =>
      succeeds_pure _

/-- A launch that was recorded is waited for, or its objects are kept; neither can fail. -/
theorem ensures_awaitLaunch (values : List (Token × Entity)) :
    Ensures (fun s => s.Unbroken ∧ s.driver?.isSome) (awaitLaunch values) (fun _ => Unbroken)
      (fun _ => False) := by
  unfold awaitLaunch
  refine (Ensures.liftM (Action.ensures_activeDriver fun _ h => h.2)).bind fun d => ?_
  refine Ensures.ite (fun _ => Ensures.liftM (Action.Ensures.drive ?_ ?_)) fun _ =>
    Ensures.change fun s h => h.1.1
  · intro s hs hn
    rw [hs.2] at hn
    cases hn
  · exact fun s n d hs _ _ => hs.1.1

theorem failsSparing_run : FailsSparing run := by
  unfold run
  refine failsSparing_bind within_prepareLaunch fun plan s₀ hs₀ => ?_
  refine (Ensures.liftM ((ensures_drive_sparing (tries_enqueueKernel _ _ _) hs₀).atSpan _)).bind
    fun _ => ?_
  exact ((ensures_awaitLaunch _).mono (fun _ h => h) (fun _ _ h => h) fun _ h => h.elim).bind
    fun _ => Ensures.pure fun _ h => h

/-- **Every command but `script`** spares the session when it fails. -/
theorem failsSparing_perform (runner : ScriptRunner) {c : Command} (hc : c ≠ .script) :
    FailsSparing (perform runner c) := by
  cases c with
  | load => exact failsSparing_load
  | select => exact failsSparing_select
  | info => exact within_info.failsSparing
  | list => exact within_list.failsSparing
  | set => exact failsSparing_settings
  | release => exact failsSparing_release
  | save => exact failsSparing_save
  | run => exact failsSparing_run
  | script => exact absurd rfl hc
  | wait => exact failsSparing_wait
  | flush => exact failsSparing_flush
  | bind => exact within_bindArguments.failsSparing
  | help => exact within_help.failsSparing
  | quit => exact within_quit.failsSparing

end Statement

end DriverBench
