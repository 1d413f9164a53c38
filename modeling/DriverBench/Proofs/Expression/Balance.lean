import DriverBench.Proofs.Expression.Spares
import DriverBench.Proofs.Session.Operations
/-!
# Evaluating an expression keeps the balance

While an expression is evaluated the drivers keep what the session refers to, the object that the
expression among the arguments denotes, and what was made for the one that is being read. What is
made is under a new handle, so giving up the one object never takes the other away. In the end there
is the object that is denoted, and after a failure there is nothing beside the session
(`ensures_evaluate`).
-/

namespace DriverBench

open Device Simulator

namespace Reading

variable {α β : Type}

/-- A reading makes something of the device under a new handle, or it makes something that has no
handle, or nothing. -/
def Makes (r : Reading α) (handle? : α → Option Handle) : Prop :=
  ∀ X, Ensures (fun s => s.Balanced X) r
    (fun a s => s.Balanced ((handle? a).toList ++ X) ∧ ∀ h ∈ handle? a, h ∉ X)
    (fun s => s.Balanced X)

/-- A reading denotes an object, which is given up by who asked for it. -/
def Denotes (r : Reading Entity) : Prop :=
  Ensures (fun s => s.Balanced []) r (fun e s => s.Balanced e.handles) (fun s => s.Balanced [])

theorem Within.balanced {r : Reading α} (h : Within Session.Keeps r) (X : List Handle) :
    Ensures (fun s => s.Balanced X) r (fun _ s => s.Balanced X) (fun s => s.Balanced X) :=
  h.ensures fun _ _ hs hb => hb.keeps hs

section Makes

variable {handle? : α → Option Handle} {handle?' : β → Option Handle}

theorem makes_bind {r : Reading β} {f : β → Reading α} (h : Within Session.Keeps r)
    (hf : ∀ b, Makes (f b) handle?) : Makes (r >>= f) handle? := fun X =>
  (h.balanced X).bind fun b => hf b X

theorem makes_ite {p : Prop} [Decidable p] {r r' : Reading α} (h : Makes r handle?)
    (h' : Makes r' handle?) : Makes (if p then r else r') handle? := by
  split <;> assumption

theorem makes_raise (f : Fault) (span : Span) : Makes (raise f span) handle? := fun _ =>
  Ensures.raise fun _ h => h

theorem makes_drive {c : Call α} {handle : α → Handle} (hc : Creates c handle) :
    Makes (liftM (Action.drive c)) fun a => some (handle a) := fun X =>
  Ensures.liftM ((Action.balanced_of_creates hc X).mono (fun _ h => h)
    (fun a s h => ⟨h.1, by simpa using h.2⟩) fun _ h => h)

theorem makes_drive_atSpan {c : Call α} {handle : α → Handle} (hc : Creates c handle)
    (span : Span) :
    Makes (liftM ((Action.drive c).atSpan span)) fun a => some (handle a) := fun X =>
  Ensures.liftM (((Action.balanced_of_creates hc X).atSpan span).mono (fun _ h => h)
    (fun a s h => ⟨h.1, by simpa using h.2⟩) fun _ h => h)

/-- What was made is given another form. -/
theorem Makes.map {r : Reading α} (h : Makes r handle?) {f : α → β}
    (hf : ∀ a, handle?' (f a) = handle? a) : Makes (r >>= fun a => pure (f a)) handle?' := fun X =>
  (h X).bind fun a => Ensures.pure fun s hs => by rwa [hf]

/-- What was made stays if the rest goes through, and is given up if not. -/
theorem makes_undoing {r : Reading α} {handle : α → Handle} {body : α → Reading β}
    (h : Makes r fun a => some (handle a)) (hb : ∀ a, Within Session.Keeps (body a))
    (hr : ∀ a, Ensures (fun _ => True) (body a) (fun b _ => handle?' b = some (handle a))
      (fun _ => True)) :
    Makes (r >>= fun a => undoing (handle a) (body a)) handle?' := by
  intro X
  refine (h X).bind fun a => Ensures.undoing ?_
  have hbody := ((hb a).ensures (P := fun s => s.Balanced (handle a :: X) ∧ handle a ∉ X)
    fun _ _ hs h => ⟨h.1.keeps hs, h.2⟩).and (hr a)
  refine hbody.mono (fun s h => ⟨⟨h.1, h.2 _ rfl⟩, trivial⟩) (fun b s h => ?_)
    (fun s h => h.1.1.letGoHandle h.1.2)
  rw [h.2]
  exact ⟨h.1.1, by simpa using h.1.2⟩

/-- A reading that keeps what there is and gives something without a handle. -/
theorem makes_of_host {r : Reading α} (h : Within Session.Keeps r)
    (hr : Ensures (fun _ => True) r (fun a _ => handle? a = none) (fun _ => True)) :
    Makes r handle? := fun X =>
  ((h.balanced X).and hr).mono (fun s hs => ⟨hs, trivial⟩)
    (fun a s hs => by simpa [hs.2] using hs.1) (fun s hs => hs.1)

end Makes

/-! ## Objects of the host -/

theorem makes_arrayObject (type : Number.ElementType) :
    Makes (arrayObject type) Object.handle? :=
  makes_of_host (within_arrayObject type) (Ensures.any.bind fun _ => Ensures.pure fun _ _ => rfl)

theorem makes_fileObject : Makes fileObject Object.handle? := by
  refine makes_of_host within_fileObject ?_
  unfold fileObject
  refine Ensures.any.bind fun name => Ensures.any.bind fun part => ?_
  refine Ensures.any.bind fun _ => Ensures.any.bind fun bytes => Ensures.any.bind fun _ => ?_
  refine Ensures.ite (fun _ => Ensures.pure fun _ _ => rfl) fun _ => ?_
  unfold wholeFile
  refine Ensures.any.bind fun s => ?_
  split
  · exact Ensures.pure fun _ _ => rfl
  · exact Ensures.pure fun _ _ => rfl
  · exact Ensures.raise fun _ _ => trivial

/-! ## Buffers and images -/

theorem makes_sizedBuffer : Makes sizedBuffer Object.handle? := by
  unfold sizedBuffer
  refine makes_bind within_consume fun t => makes_bind (within_lift _) fun size => ?_
  refine makes_bind within_closeArguments fun _ => ?_
  exact (makes_drive_atSpan (creates_createBuffer size) _).map fun m => rfl

theorem makes_bufferOf (bytes : List UInt8) : Makes (bufferOf bytes) fun m => some m.handle := by
  unfold bufferOf
  refine makes_undoing (makes_drive (creates_createBuffer _)) (fun m => ?_) fun m =>
    Ensures.any.bind fun _ => Ensures.pure fun _ _ => rfl
  refine within_bind (within_liftM (Action.within_keeps_drive ?_)) fun _ => within_pure _
  exact (within_writeBuffer m 0 bytes).mono fun _ _ h => h.sameLive

/-- Objects of the host come and go without a change of the balance. -/
theorem keeps_append_inFlight {s : Session} {e : Entity} (he : e.object.handle? = none) :
    s.Keeps { s with inFlight := s.inFlight ++ [e] } := by
  refine ⟨fun k => ?_, rfl, rfl, Frame.refl s.fleet⟩
  simp only [Session.mem_handles, Session.mem_held, List.mem_append, List.mem_singleton]
  grind

/-- Once something was made there is a driver, so keeping the source of its bytes cannot fail. -/
theorem ensures_keepInFlight {e : Entity} (he : e.object.handle? = none) {h : Handle}
    {X : List Handle} :
    Ensures (fun s => s.Balanced (h :: X) ∧ h ∉ X) (keepInFlight e)
      (fun _ s => s.Balanced (h :: X) ∧ h ∉ X) (fun _ => False) := by
  unfold keepInFlight
  refine (Ensures.liftM (Action.ensures_activeDriver fun s hs =>
    hs.1.isSome_driver? List.mem_cons_self)).bind fun d => Ensures.ite (fun _ => ?_) fun _ => ?_
  · exact Ensures.change fun s hs => ⟨hs.1.1.keeps (keeps_append_inFlight he), hs.1.2⟩
  · exact Ensures.pure fun s hs => hs.1

theorem makes_filledBuffer (operand : Token) (source : Entity) :
    Makes (filledBuffer operand source) Object.handle? := by
  unfold filledBuffer
  split
  · exact makes_raise _ _
  · next d hd =>
    refine makes_bind (within_dataPart _) fun part => ?_
    refine makes_bind within_closeArguments fun _ X => (makes_bufferOf _ X).bind fun m => ?_
    have hkeep := ensures_keepInFlight (handle?_of_data? hd) (h := m.handle) (X := X)
    refine (hkeep.mono (fun s h => ⟨h.1, h.2 _ rfl⟩) (fun _ _ h => h) fun _ h => h.elim).bind
      fun _ => Ensures.pure fun s hs => ⟨hs.1, ?_⟩
    simpa [Object.handle?] using hs.2

theorem makes_filledImage (operand : Token) (source : Entity) :
    Makes (filledImage operand source) Object.handle? := by
  unfold filledImage
  refine makes_bind (within_skip _) fun more => ?_
  extract_lets rest
  have hrest : ∀ form, Makes (rest form) Object.handle? := fun form => by
    refine makes_bind within_closeArguments fun _ => ?_
    exact (makes_drive (creates_createImage _ _ _)).map fun m => rfl
  exact makes_ite (makes_bind (within_imageFromData _ _) hrest)
    (makes_bind (within_imageFromImage _ _) hrest)

theorem makes_copyMemory (m : Memory) : Makes (copyMemory m) fun m => some m.handle := by
  unfold copyMemory
  split
  · refine makes_undoing (makes_drive (creates_createImage _ _ _)) (fun copy => ?_) fun copy =>
      Ensures.any.bind fun _ => Ensures.pure fun _ _ => rfl
    refine within_bind (within_liftM (Action.within_keeps_drive ?_)) fun _ => within_pure _
    exact (within_copyImage m copy _ _ _).mono fun _ _ h => h.sameLive
  · refine makes_undoing (makes_drive (creates_createBuffer _)) (fun copy => ?_) fun copy =>
      Ensures.any.bind fun _ => Ensures.pure fun _ _ => rfl
    refine within_bind (within_liftM (Action.within_keeps_drive ?_)) fun _ => within_pure _
    exact (within_copyBuffer m copy _ _ _).mono fun _ _ h => h.sameLive

theorem makes_clonedObject (operand : Token) (source : Entity) :
    Makes (clonedObject operand source) Object.handle? := by
  unfold clonedObject
  refine makes_bind within_closeArguments fun _ => ?_
  split
  · exact (makes_copyMemory _).map fun m => rfl
  · exact (makes_drive (creates_cloneKernel _)).map fun k => rfl
  · exact makes_raise _ _

/-! ## Programs and kernels -/

theorem within_keeps_build (program : Handle) (options : String) :
    Action.Within Session.Keeps (build program options) :=
  Action.within_tryCatch (Action.within_keeps_drive ((within_buildProgram program options).mono
    fun _ _ h => h.sameLive)) within_buildFailure

/-- A program is there once it is built. -/
theorem makes_builtProgram {r : Reading Handle} (h : Makes r fun program => some (id program))
    (options : String) :
    Makes (r >>= fun program => builtProgram program options) Object.handle? := by
  refine makes_undoing h (fun program => ?_) fun program =>
    Ensures.any.bind fun _ => Ensures.pure fun _ _ => rfl
  exact within_bind (within_liftM (within_keeps_build program options)) fun _ => within_pure _

theorem makes_programOfSource (source : String) :
    Makes (programOfSource source) Object.handle? := by
  unfold programOfSource
  refine makes_bind within_buildOptions fun options => makes_bind within_closeArguments fun _ => ?_
  exact makes_builtProgram (makes_drive (creates_createProgram source)) options

theorem makes_quotedProgram : Makes quotedProgram Object.handle? := by
  unfold quotedProgram
  refine makes_bind within_consume fun t => makes_bind (within_lift _) fun source => ?_
  exact makes_programOfSource source

theorem makes_dataProgram (operand : Token) (source : Entity) :
    Makes (dataProgram operand source) Object.handle? := by
  unfold dataProgram
  split
  · exact makes_raise _ _
  · exact makes_programOfSource _

theorem makes_binaryProgram (operand : Token) (source : Entity) :
    Makes (binaryProgram operand source) Object.handle? := by
  unfold binaryProgram
  split
  · exact makes_raise _ _
  · refine makes_bind within_buildOptions fun options => ?_
    refine makes_bind within_closeArguments fun _ => ?_
    exact makes_builtProgram (makes_drive_atSpan (creates_createProgramBinary _) _) options

theorem makes_programKernel (operand : Token) (source : Entity) :
    Makes (programKernel operand source) Object.handle? := by
  unfold programKernel
  split
  · exact makes_raise _ _
  · refine makes_bind within_comma fun _ => makes_bind within_kernelName fun name => ?_
    refine makes_bind within_closeArguments fun _ => ?_
    exact (makes_drive_atSpan (creates_createKernel _ _) _).map fun k => rfl

/-! ## Expressions -/

theorem makes_plain {d : Derivation} {kind : TokenKind} {object : Reading Object}
    (h : plain? d kind = some object) : Makes object Object.handle? := by
  unfold plain? at h
  split at h
  · exact Option.some.inj h ▸ makes_sizedBuffer
  · exact Option.some.inj h ▸ makes_quotedProgram
  · cases h

theorem makes_derive (d : Derivation) (operand : Token) (source : Entity) :
    Makes (derive d operand source) Object.handle? := by
  cases d
  · exact makes_clonedObject operand source
  · exact makes_filledBuffer operand source
  · exact makes_filledImage operand source
  · exact makes_dataProgram operand source
  · exact makes_binaryProgram operand source
  · exact makes_programKernel operand source

/-- What an object is derived from is given up, and what was derived stays. -/
theorem ensures_holding_derive (d : Derivation) (operand : Token) (source : Entity) :
    Ensures (fun s => s.Balanced source.handles) (holding source (derive d operand source))
      (fun o s => s.Balanced o.handle?.toList) (fun s => s.Balanced []) := by
  -- A handle that was just made is none of the source's, so letting the source go spares it.
  refine Ensures.holding ((makes_derive d operand source source.handles).mono (fun _ h => h)
    (fun o s h => ?_) fun s h => ?_)
  · refine Session.Balanced.letGo (h.1.move rfl rfl fun k => ?_) fun k hk ho => ?_
    · simp only [List.mem_append]
      grind
    · exact h.2 k (by simpa using ho) hk
  · exact Session.Balanced.letGo (by simpa using h) (by simp)

theorem ensures_derivedObject (d : Derivation) {operand : Reading Entity} (h : Denotes operand) :
    Ensures (fun s => s.Balanced []) (derivedObject d operand)
      (fun o s => s.Balanced o.handle?.toList) (fun s => s.Balanced []) := by
  unfold derivedObject
  refine (within_current.balanced []).bind fun first => ?_
  split
  · next object ho =>
    exact (makes_plain ho []).mono (fun _ h => h) (fun o s h => by simpa using h.1) fun _ h => h
  · exact h.bind fun source => ensures_holding_derive d first source

theorem denotes_missing : Denotes missing :=
  (within_here.balanced []).bind fun _ => Ensures.raise fun _ h => h

theorem ensures_construct (c : Constructor) (word : Token) {operand : Reading Entity}
    (h : Denotes operand) :
    Ensures (fun s => s.Balanced []) (construct c word operand)
      (fun o s => s.Balanced o.handle?.toList) (fun s => s.Balanced []) := by
  have hmakes : ∀ {r : Reading Object}, Makes r Object.handle? →
      Ensures (fun s => s.Balanced []) r (fun o s => s.Balanced o.handle?.toList)
        (fun s => s.Balanced []) := fun hr =>
    (hr []).mono (fun _ h => h) (fun _ _ h => by simpa using h.1) fun _ h => h
  unfold construct
  split
  · exact hmakes (makes_bind (within_openArguments _) fun _ => makes_fileObject)
  · exact hmakes (makes_bind (within_openArguments _) fun _ => makes_arrayObject _)
  · next d =>
    have hopen := (within_openArguments (R := Session.Keeps) (Constructor.derived d).keyword)
    have hrest := (hopen.balanced []).bind fun _ => ensures_derivedObject d h
    exact Ensures.ite (fun _ => ((within_requireDriver _ _).balanced []).bind fun _ => hrest)
      fun _ => hrest

theorem denotes_construct (c : Constructor) (word : Token) {operand : Reading Entity}
    (h : Denotes operand) :
    Denotes (construct c word operand >>= fun o => liftM (Action.enter o)) :=
  (ensures_construct c word h).bind fun _ => Ensures.liftM fun _ hs =>
    hs.move rfl rfl fun _ => Iff.rfl

/-- Looking for a token cannot fail. -/
theorem ensures_skip {P : Session → Prop} (kind : TokenKind) :
    Ensures P (skip kind) (fun _ => P) (fun _ => False) := by
  have hlook : Ensures P cursor (fun _ => P) (fun _ => False) := fun _ _ h => h
  have hmove : ∀ c : Cursor, Ensures P (set c : Reading PUnit) (fun _ => P) (fun _ => False) :=
    fun _ _ _ h => h
  unfold skip accept
  refine Ensures.bind (hlook.bind fun c => ?_) fun _ => Ensures.pure fun _ h => h
  split
  · exact (hmove _).bind fun _ => Ensures.pure fun _ h => h
  · exact Ensures.pure fun _ h => h

theorem ensures_closed (opening : Token) (e : Entity) :
    Ensures (fun s => s.Balanced e.handles) (closed opening e) (fun e s => s.Balanced e.handles)
      (fun s => s.Balanced []) := by
  unfold closed
  have hskip := ensures_skip (P := fun s => s.Balanced e.handles) .closeParen
  refine (hskip.mono (fun _ h => h) (fun _ _ h => h) fun _ h => h.elim).bind fun close =>
    Ensures.ite (fun _ => Ensures.pure fun _ h => h) fun _ => ?_
  refine Ensures.bind (Ensures.change (Q := fun _ s => s.Balanced []) fun s hs => ?_) fun _ =>
    Ensures.raise fun _ h => h
  exact Session.Balanced.letGo (by simpa using hs) (by simp)

/-- An object that is bound is referred to already. -/
theorem balanced_of_lookup {s : Session} {name : String} {e : Entity} (h : s.Balanced [])
    (he : s.env.lookup name = some e) : s.Balanced e.handles := by
  refine h.move rfl rfl fun k => ?_
  have hv := Environment.mem_values_of_lookup he
  simp only [Session.mem_handles, Session.mem_held, Entity.mem_handles, List.not_mem_nil, or_false]
  grind

/-- **An expression** denotes an object that is bound or was made for it, and makes nothing else. -/
theorem denotes_evaluateFrom : (ts : List Token) → Denotes (evaluateFrom ts)
  | [] => denotes_missing
  | t :: rest => by
    have hrest := denotes_evaluateFrom rest
    unfold evaluateFrom
    split
    · exact Ensures.throw fun _ h => h
    · exact (within_advance.balanced []).bind fun _ => hrest.bind fun e => ensures_closed t e
    · refine (within_advance.balanced []).bind fun _ => ?_
      refine Ensures.session_bind fun s₁ hb => ?_
      split
      · next e he =>
        refine Ensures.pure ?_
        rintro s rfl
        exact balanced_of_lookup hb he
      · refine Ensures.mono (P := fun s => s.Balanced []) ?_ (fun _ h => h ▸ hb) (fun _ _ h => h)
          fun _ h => h
        split
        · exact Ensures.raise fun _ h => h
        · exact denotes_construct _ _ denotes_missing
        · next c x arguments _ => exact denotes_construct c t (denotes_evaluateFrom arguments)
    · exact Ensures.raise fun _ h => h

theorem denotes_evaluate : Denotes evaluate :=
  (within_cursor.balanced []).bind fun c => denotes_evaluateFrom c.pending

end Reading

end DriverBench
