import DriverBench.Proofs.Session.Drive
/-!
# Evaluating an expression takes nothing away

Every constructor reads, makes something on the device, and may write into what it made. Whatever
expression is evaluated, and wherever it fails, the session it started from is spared
(`within_evaluate`): the proof goes down the tokens with the recursion of evaluation.
-/

namespace DriverBench

open Device Simulator

namespace Reading

open Session (Builds Derives)

variable {α β : Type}

theorem within_holding {e : Entity} {r : Reading α} (h : Within Builds r) :
    Within Builds (holding e r) := fun c s =>
  Frame.trans (h c s) (Session.builds_letGo _ _)

theorem ensures_builds_undoing {s₀ : Session} {k : Handle} {r : Reading α}
    {Q : α → Session → Prop} (h : Ensures s₀.Builds r Q s₀.Builds) :
    Ensures s₀.Builds (undoing k r) Q s₀.Builds :=
  Ensures.undoing (h.mono (fun _ h => h) (fun _ _ h => h) fun s hs =>
    Frame.trans hs (Session.builds_letGoHandle s k))

/-- To make something and go on with it takes nothing away, if going on spares what was there before
it was made. -/
theorem within_created {a : Action α} {handle : α → Handle} {body : α → Reading β}
    (ha : ∀ s₀, Action.Ensures (fun s => s = s₀) a
      (fun x s => s₀.Builds s ∧ s₀.Newer (handle x)) s₀.Builds)
    (hb : ∀ x (s₀ : Session), s₀.Newer (handle x) →
      Ensures s₀.Builds (body x) (fun _ => s₀.Builds) s₀.Builds) :
    Within Builds (liftM a >>= body) :=
  within_of_ensures fun s₀ => (Ensures.liftM (ha s₀)).bind fun x c s hs => hb x s₀ hs.2 c s hs.1

theorem within_created_atSpan {c : Call α} {handle : α → Handle} (hc : Creates c handle)
    (span : Span) : Within Builds (liftM ((Action.drive c).atSpan span)) :=
  within_liftM (Action.within_atSpan (Action.within_builds_drive hc.within_intact) span)

/-! ## Buffers and images -/

theorem within_sizedBuffer : Within Builds sizedBuffer := by
  unfold sizedBuffer
  refine within_bind within_consume fun t => within_bind (within_lift _) fun size => ?_
  refine within_bind within_closeArguments fun _ => ?_
  exact within_bind (within_created_atSpan (creates_createBuffer size) _) fun m => within_pure _

theorem within_bufferOf (bytes : List UInt8) : Within Builds (bufferOf bytes) := by
  unfold bufferOf
  refine within_created (Action.builds_of_creates (creates_createBuffer _)) fun m s₀ hm => ?_
  refine ensures_builds_undoing <|
    Ensures.bind (Ensures.liftM ?_) fun _ => Ensures.pure fun _ h => h
  exact Action.builds_of_alters (within_writeBuffer m 0 bytes) hm

theorem within_keepInFlight {e : Entity} (he : e.object.handle? = none) :
    Within Builds (keepInFlight e) := by
  unfold keepInFlight
  refine within_bind (within_liftM Action.within_activeDriver) fun d =>
    within_ite ?_ (within_pure _)
  exact fun c s => ⟨⟨⟨rfl, rfl, rfl, rfl, rfl, rfl, rfl, rfl, rfl,
    ⟨[e], rfl, by simpa using he⟩, Frame.refl s.fleet⟩, rfl⟩, Frame.refl s.fleet⟩

/-- Bytes of the host have no handle. -/
theorem handle?_of_data? {o : Object} {d : Data} (h : o.data? = some d) : o.handle? = none := by
  cases o <;> simp_all [Object.data?, Object.handle?]

theorem within_filledBuffer (operand : Token) (source : Entity) :
    Within Builds (filledBuffer operand source) := by
  unfold filledBuffer
  split
  · exact within_raise _ _
  · next d hd =>
    refine within_bind (within_dataPart _) fun part => within_bind within_closeArguments fun _ => ?_
    refine within_bind (within_bufferOf _) fun m => ?_
    exact within_bind (within_keepInFlight (handle?_of_data? hd)) fun _ => within_pure _

theorem within_filledImage (operand : Token) (source : Entity) :
    Within Builds (filledImage operand source) := by
  unfold filledImage
  refine within_bind (within_skip _) fun more => ?_
  extract_lets rest
  have hrest : ∀ form, Within Builds (rest form) := fun form => by
    refine within_bind within_closeArguments fun _ => ?_
    exact within_bind (within_liftM (Action.within_builds_drive
      (creates_createImage _ _ _).within_intact)) fun m => within_pure _
  exact within_ite (within_bind (within_imageFromData _ _) hrest)
    (within_bind (within_imageFromImage _ _) hrest)

theorem within_copyMemory (m : Memory) : Within Builds (copyMemory m) := by
  unfold copyMemory
  split
  · refine within_created (Action.builds_of_creates (creates_createImage _ _ _))
      fun copy s₀ hm => ?_
    refine ensures_builds_undoing (Ensures.bind (Ensures.liftM ?_) fun _ =>
      Ensures.pure fun _ h => h)
    exact Action.builds_of_alters (within_copyImage m copy _ _ _) hm
  · refine within_created (Action.builds_of_creates (creates_createBuffer _)) fun copy s₀ hm => ?_
    refine ensures_builds_undoing (Ensures.bind (Ensures.liftM ?_) fun _ =>
      Ensures.pure fun _ h => h)
    exact Action.builds_of_alters (within_copyBuffer m copy _ _ _) hm

theorem within_clonedObject (operand : Token) (source : Entity) :
    Within Builds (clonedObject operand source) := by
  unfold clonedObject
  refine within_bind within_closeArguments fun _ => ?_
  split
  · exact within_bind (within_copyMemory _) fun m => within_pure _
  · exact within_bind (within_liftM (Action.within_builds_drive
      (creates_cloneKernel _).within_intact)) fun k => within_pure _
  · exact within_raise _ _

/-! ## Programs and kernels -/

/-- What follows a failed build is the log, if there is one, and the failure itself. -/
theorem within_buildFailure {R : Session → Session → Prop} [Session.TalkFrame R] (f : Failure) :
    Action.Within R (do
      match f.fault with
      | .driver (.buildFailure log) => printLog log
      | _ => pure ()
      throw f : Action Unit) := by
  extract_lets rest
  have hrest : ∀ u, Action.Within R (rest u) := fun _ => Action.within_throw f
  split
  · exact Action.within_bind (Action.within_printError _) hrest
  · exact hrest ()

theorem ensures_builds_build {s₀ : Session} {program : Handle} (hp : s₀.Newer program)
    (options : String) :
    Action.Ensures s₀.Builds (build program options) (fun _ => s₀.Builds) s₀.Builds :=
  (Action.builds_of_alters (within_buildProgram program options) hp).tryCatch fun f =>
    (within_buildFailure f).ensures fun _ _ hs h => Frame.trans h hs

theorem ensures_builds_builtProgram {s₀ : Session} {program : Handle} (hp : s₀.Newer program)
    (options : String) :
    Ensures s₀.Builds (builtProgram program options) (fun _ => s₀.Builds) s₀.Builds :=
  ensures_builds_undoing (Ensures.bind (Ensures.liftM (ensures_builds_build hp options)) fun _ =>
    Ensures.pure fun _ h => h)

theorem within_programOfSource (source : String) : Within Builds (programOfSource source) := by
  unfold programOfSource
  refine within_bind within_buildOptions fun options => ?_
  refine within_bind within_closeArguments fun _ => ?_
  exact within_created (Action.builds_of_creates (creates_createProgram source)) fun p s₀ hp =>
    ensures_builds_builtProgram hp options

theorem within_quotedProgram : Within Builds quotedProgram := by
  unfold quotedProgram
  refine within_bind within_consume fun t => within_bind (within_lift _) fun source => ?_
  exact within_programOfSource source

theorem within_dataProgram (operand : Token) (source : Entity) :
    Within Builds (dataProgram operand source) := by
  unfold dataProgram
  split
  · exact within_raise _ _
  · exact within_programOfSource _

theorem within_binaryProgram (operand : Token) (source : Entity) :
    Within Builds (binaryProgram operand source) := by
  unfold binaryProgram
  split
  · exact within_raise _ _
  · refine within_bind within_buildOptions fun options => ?_
    refine within_bind within_closeArguments fun _ => ?_
    refine within_created (fun s₀ => ?_) fun p s₀ hp => ensures_builds_builtProgram hp options
    exact (Action.builds_of_creates (creates_createProgramBinary _) s₀).atSpan _

theorem within_programKernel (operand : Token) (source : Entity) :
    Within Builds (programKernel operand source) := by
  unfold programKernel
  split
  · exact within_raise _ _
  · refine within_bind within_comma fun _ => within_bind within_kernelName fun name => ?_
    refine within_bind within_closeArguments fun _ => ?_
    exact within_bind (within_created_atSpan (creates_createKernel _ _) _) fun k => within_pure _

/-! ## Expressions -/

theorem within_plain {d : Derivation} {kind : TokenKind} {object : Reading Object}
    (h : plain? d kind = some object) : Within Builds object := by
  unfold plain? at h
  split at h
  · exact Option.some.inj h ▸ within_sizedBuffer
  · exact Option.some.inj h ▸ within_quotedProgram
  · cases h

theorem within_derive (d : Derivation) (operand : Token) (source : Entity) :
    Within Builds (derive d operand source) := by
  cases d
  · exact within_clonedObject operand source
  · exact within_filledBuffer operand source
  · exact within_filledImage operand source
  · exact within_dataProgram operand source
  · exact within_binaryProgram operand source
  · exact within_programKernel operand source

theorem within_derivedObject (d : Derivation) {operand : Reading Entity}
    (h : Within Builds operand) : Within Builds (derivedObject d operand) := by
  unfold derivedObject
  refine within_bind within_current fun first => ?_
  split
  · next object ho => exact within_plain ho
  · exact within_bind h fun source => within_holding (within_derive d first source)

theorem within_construct (c : Constructor) (word : Token) {operand : Reading Entity}
    (h : Within Builds operand) : Within Builds (construct c word operand) := by
  unfold construct
  split
  · exact within_bind (within_openArguments _) fun _ => within_fileObject
  · exact within_bind (within_openArguments _) fun _ => within_arrayObject _
  · next d =>
    refine within_when (within_requireDriver _ _) ?_
    exact within_bind (within_openArguments _) fun _ => within_derivedObject d h

theorem within_enter (object : Object) : Action.Within Builds (Action.enter object) := fun s =>
  ⟨⟨⟨rfl, rfl, rfl, rfl, rfl, rfl, rfl, rfl, rfl, ⟨[], (List.append_nil _).symm, by simp⟩,
    Frame.refl s.fleet⟩, rfl⟩, Frame.refl s.fleet⟩

theorem within_closed (opening : Token) (e : Entity) : Within Builds (closed opening e) := by
  unfold closed
  refine within_bind (within_skip _) fun close => within_ite (within_pure _) ?_
  exact within_bind (fun c s => Session.builds_letGo s [e]) fun _ => within_raise _ _

theorem within_evaluateFrom : (ts : List Token) → Within Builds (evaluateFrom ts)
  | [] => within_missing
  | t :: rest => by
    have hrest := within_evaluateFrom rest
    unfold evaluateFrom
    split
    · exact within_throw _
    · refine within_bind within_advance fun _ => within_bind hrest fun e => ?_
      exact within_closed t e
    · refine within_bind within_advance fun _ => within_bind within_session fun s => ?_
      split
      · exact within_pure _
      · split
        · exact within_raise _ _
        · exact within_bind (within_construct _ _ within_missing) fun o =>
            within_liftM (within_enter o)
        · next c x arguments _ =>
          exact within_bind (within_construct c t (within_evaluateFrom arguments)) fun o =>
            within_liftM (within_enter o)
    · exact within_raise _ _

/-- **Evaluating an expression takes nothing away** and alters nothing that was there. -/
theorem within_builds_evaluate : Within Builds evaluate :=
  within_bind within_cursor fun c => within_evaluateFrom c.pending

theorem within_evaluate : Within Derives evaluate :=
  within_builds_evaluate.mono fun _ _ h => h.toDerives

theorem Within.derives {r : Reading α} (h : Within Derives r) (s₀ : Session) :
    Ensures s₀.Derives r (fun _ => s₀.Derives) s₀.Derives :=
  h.ensures fun _ _ hs h₀ => Frame.trans h₀ hs

end Reading

end DriverBench
