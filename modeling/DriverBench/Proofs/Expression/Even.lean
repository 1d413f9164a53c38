import DriverBench.Proofs.Expression.Balance
import DriverBench.Proofs.Reading.Even
/-!
# Expressions denote the same in near sessions

Reading an expression makes calls of the driver for what the expression names and for what was made
on the way. Both are there, since the session is in balance, so the calls answer alike; and what
either side still keeps beside that does not come in (`evenFrom_evaluate`).
-/

namespace DriverBench

open Device Simulator
open Session (Near Keeps)

namespace Reading

variable {α β : Type} {X : List Handle}

/-- Reading goes before, from sessions of a kind that it keeps. -/
theorem evenFrom_bind_of_keeps {P : Session → Prop} (hP : ∀ s s', s.Keeps s' → P s → P s')
    {r : Reading β} {f : β → Reading α} (h : Even Near r) (hk : Within Keeps r)
    (hf : ∀ b, EvenFrom Near P (f b)) : EvenFrom Near P (r >>= f) :=
  EvenFrom.bind h.from (hk.ensures hP) hf

theorem evenFrom_bind {r : Reading β} {f : β → Reading α} (h : Even Near r)
    (hk : Within Keeps r) (hf : ∀ b, EvenFrom Near (fun s => s.Balanced X) (f b)) :
    EvenFrom Near (fun s => s.Balanced X) (r >>= f) :=
  evenFrom_bind_of_keeps (fun _ _ hk h => h.keeps hk) h hk hf

/-- What goes on with something that was made goes on with it on both sides. -/
theorem evenFrom_undoing {r : Reading α} {handle : α → Handle} {body : α → Reading β}
    (h : Even Near r) (hm : Makes r fun a => some (handle a))
    (hb : ∀ a, EvenFrom Near (fun s => s.Balanced (handle a :: X)) (body a)) :
    EvenFrom Near (fun s => s.Balanced X) (r >>= fun a => undoing (handle a) (body a)) :=
  EvenFrom.bind h.from (hm X) fun a =>
    EvenFrom.undoing (EvenFrom.mono (hb a) fun _ hs => hs.1) (handle a)

/-- A call that is given handles of things that are there. -/
theorem evenFrom_drive {c : Call α} {hs : List Handle}
    (hc : Action.Even (State.Near (hs.map (·.id))) c) (hX : hs ⊆ X) :
    Action.EvenFrom Near (fun s => s.Balanced X) (Action.drive c) :=
  Action.evenFrom_drive hc fun _ hb _ hk => hb.knows (.inr (hX hk))

/-! ## Buffers and images -/

theorem even_sizedBuffer : Even Near sizedBuffer := by
  unfold sizedBuffer
  refine even_bind even_consume fun t => even_bind (even_lift _) fun size => ?_
  refine even_bind even_closeArguments fun _ => even_bind (even_liftM ?_) fun m => even_pure _
  exact Action.even_atSpan (Action.even_drive (even_createBuffer size)) _

theorem evenFrom_bufferOf (bytes : List UInt8) :
    EvenFrom Near (fun s => s.Balanced X) (bufferOf bytes) := by
  unfold bufferOf
  refine evenFrom_undoing (even_liftM (Action.even_drive (even_createBuffer _)))
    (makes_drive (creates_createBuffer _)) fun m => ?_
  have hwrite : Action.Even (State.Near ([m.handle].map (·.id))) (writeBuffer m 0 bytes) :=
    even_writeBuffer (by simp) 0 bytes
  exact EvenFrom.bind_even (EvenFrom.liftM (evenFrom_drive hwrite (by simp))) fun _ => even_pure _

theorem evenFrom_filledBuffer (operand : Token) (source : Entity) :
    EvenFrom Near (fun s => s.Balanced X) (filledBuffer operand source) := by
  unfold filledBuffer
  split
  · exact (even_raise _ _).from
  · refine evenFrom_bind (even_dataPart _) (within_dataPart _) fun part => ?_
    refine evenFrom_bind even_closeArguments within_closeArguments fun _ => ?_
    refine EvenFrom.bind_even (evenFrom_bufferOf _) fun m => ?_
    exact even_bind (even_keepInFlight source) fun _ => even_pure _

theorem even_filledImage (operand : Token) (source : Entity) :
    Even Near (filledImage operand source) := by
  unfold filledImage
  refine even_bind (even_skip _) fun more => ?_
  extract_lets rest
  have hrest : ∀ form, Even Near (rest form) := fun form => by
    refine even_bind even_closeArguments fun _ => even_bind (even_liftM ?_) fun m => even_pure _
    exact Action.even_drive (even_createImage _ _ _)
  exact even_ite (even_bind (even_imageFromData _ _) hrest)
    (even_bind (even_imageFromImage _ _) hrest)

theorem evenFrom_copyMemory (m : Memory) (hm : m.handle ∈ X) :
    EvenFrom Near (fun s => s.Balanced X) (copyMemory m) := by
  have hknown : ∀ copy : Memory, [m.handle, copy.handle] ⊆ copy.handle :: X := by
    intro copy k hk
    simp only [List.mem_cons, List.not_mem_nil, or_false] at hk ⊢
    rcases hk with rfl | rfl
    · exact .inr hm
    · exact .inl rfl
  unfold copyMemory
  split
  · next format desc _ =>
    refine evenFrom_undoing (even_liftM (Action.even_drive (even_createImage _ _ _)))
      (makes_drive (creates_createImage _ _ _)) fun copy => ?_
    have hcopy : Action.Even (State.Near ([m.handle, copy.handle].map (·.id)))
        (copyImage m copy (0, 0, 0) (0, 0, 0) desc.region) :=
      even_copyImage (by simp) (by simp) _ _ _
    exact EvenFrom.bind_even (EvenFrom.liftM (evenFrom_drive hcopy (hknown copy)))
      fun _ => even_pure _
  · refine evenFrom_undoing (even_liftM (Action.even_drive (even_createBuffer _)))
      (makes_drive (creates_createBuffer _)) fun copy => ?_
    have hcopy : Action.Even (State.Near ([m.handle, copy.handle].map (·.id)))
        (copyBuffer m copy 0 0 m.size) :=
      even_copyBuffer (by simp) (by simp) _ _ _
    exact EvenFrom.bind_even (EvenFrom.liftM (evenFrom_drive hcopy (hknown copy)))
      fun _ => even_pure _

theorem evenFrom_clonedObject (operand : Token) (source : Entity) :
    EvenFrom Near (fun s => s.Balanced source.handles) (clonedObject operand source) := by
  unfold clonedObject
  refine evenFrom_bind even_closeArguments within_closeArguments fun _ => ?_
  split
  · next m hm =>
    have hmem : m.handle ∈ source.handles := by rw [Entity.mem_handles, hm]; rfl
    exact EvenFrom.bind_even (evenFrom_copyMemory m hmem) fun _ => even_pure _
  · next k name hk =>
    have hclone : Action.Even (State.Near ([k].map (·.id))) (cloneKernel k) :=
      even_cloneKernel (by simp)
    have hmem : [k] ⊆ source.handles := by simp [Entity.mem_handles, hk, Object.handle?]
    exact EvenFrom.bind_even (EvenFrom.liftM (evenFrom_drive hclone hmem)) fun _ => even_pure _
  · exact (even_raise _ _).from

/-! ## Programs and kernels -/

theorem evenFrom_build (program : Handle) (options : String) (hX : program ∈ X) :
    Action.EvenFrom Near (fun s => s.Balanced X) (build program options) := by
  have hbuild : Action.Even (State.Near ([program].map (·.id)))
      (buildProgram program options) :=
    even_buildProgram (by simp) options
  refine Action.EvenFrom.tryCatch (evenFrom_drive hbuild (by simpa using hX)) fun f => ?_
  extract_lets rest
  have hrest : ∀ u, Action.Even Near (rest u) := fun _ => Action.even_throw f
  -- The log is printed on both sides.
  split
  · exact Action.even_bind (Action.even_printError _) hrest
  · exact hrest ()

theorem evenFrom_builtProgram {r : Reading Handle} (h : Even Near r)
    (hm : Makes r fun program => some (id program)) (options : String) :
    EvenFrom Near (fun s => s.Balanced X)
      (r >>= fun program => builtProgram program options) := by
  refine evenFrom_undoing h hm fun program => ?_
  exact EvenFrom.bind_even (EvenFrom.liftM (evenFrom_build program options List.mem_cons_self))
    fun _ => even_pure _

theorem evenFrom_programOfSource (source : String) :
    EvenFrom Near (fun s => s.Balanced X) (programOfSource source) := by
  unfold programOfSource
  refine evenFrom_bind even_buildOptions within_buildOptions fun options => ?_
  refine evenFrom_bind even_closeArguments within_closeArguments fun _ => ?_
  exact evenFrom_builtProgram (even_liftM (Action.even_drive (even_createProgram _)))
    (makes_drive (creates_createProgram source)) options

theorem evenFrom_quotedProgram : EvenFrom Near (fun s => s.Balanced X) quotedProgram := by
  unfold quotedProgram
  refine evenFrom_bind even_consume within_consume fun t => ?_
  exact evenFrom_bind (even_lift _) (within_lift _) fun source => evenFrom_programOfSource source

theorem evenFrom_dataProgram (operand : Token) (source : Entity) :
    EvenFrom Near (fun s => s.Balanced X) (dataProgram operand source) := by
  unfold dataProgram
  split
  · exact (even_raise _ _).from
  · exact evenFrom_programOfSource _

theorem evenFrom_binaryProgram (operand : Token) (source : Entity) :
    EvenFrom Near (fun s => s.Balanced X) (binaryProgram operand source) := by
  unfold binaryProgram
  split
  · exact (even_raise _ _).from
  · refine evenFrom_bind even_buildOptions within_buildOptions fun options => ?_
    refine evenFrom_bind even_closeArguments within_closeArguments fun _ => ?_
    refine evenFrom_builtProgram (even_liftM (Action.even_atSpan (Action.even_drive ?_) _))
      (makes_drive_atSpan (creates_createProgramBinary _) _) options
    exact even_createProgramBinary _

theorem evenFrom_programKernel (operand : Token) (source : Entity) :
    EvenFrom Near (fun s => s.Balanced source.handles) (programKernel operand source) := by
  unfold programKernel
  split
  · exact (even_raise _ _).from
  · next program hp =>
    refine evenFrom_bind even_comma within_comma fun _ => ?_
    refine evenFrom_bind even_kernelName within_kernelName fun name => ?_
    refine evenFrom_bind even_closeArguments within_closeArguments fun _ => ?_
    have hcreate : Action.Even (State.Near ([program].map (·.id)))
        (createKernel program name.1) :=
      even_createKernel (by simp) _
    have hmem : [program] ⊆ source.handles := by
      unfold Entity.handles
      cases ho : source.object <;> simp_all [Object.program?, Object.handle?]
    exact EvenFrom.bind_even
      (EvenFrom.liftM (Action.EvenFrom.atSpan (evenFrom_drive hcreate hmem) _))
      fun _ => even_pure _

/-! ## Expressions -/

theorem evenFrom_derive (d : Derivation) (operand : Token) (source : Entity) :
    EvenFrom Near (fun s => s.Balanced source.handles) (derive d operand source) := by
  cases d
  · exact evenFrom_clonedObject operand source
  · exact evenFrom_filledBuffer operand source
  · exact (even_filledImage operand source).from
  · exact evenFrom_dataProgram operand source
  · exact evenFrom_binaryProgram operand source
  · exact evenFrom_programKernel operand source

theorem evenFrom_plain {d : Derivation} {kind : TokenKind} {object : Reading Object}
    (h : plain? d kind = some object) : EvenFrom Near (fun s => s.Balanced []) object := by
  unfold plain? at h
  split at h
  · exact Option.some.inj h ▸ even_sizedBuffer.from
  · exact Option.some.inj h ▸ evenFrom_quotedProgram
  · cases h

section Operand

variable {operand : Reading Entity}

theorem evenFrom_derivedObject (d : Derivation) (hd : Denotes operand)
    (he : EvenFrom Near (fun s => s.Balanced []) operand) :
    EvenFrom Near (fun s => s.Balanced []) (derivedObject d operand) := by
  unfold derivedObject
  refine evenFrom_bind even_current within_current fun first => ?_
  split
  · next object ho => exact evenFrom_plain ho
  · exact EvenFrom.bind he hd fun source => EvenFrom.holding (evenFrom_derive d first source) source

theorem evenFrom_construct (c : Constructor) (word : Token) (hd : Denotes operand)
    (he : EvenFrom Near (fun s => s.Balanced []) operand) :
    EvenFrom Near (fun s => s.Balanced [])
      (construct c word operand >>= fun o => liftM (Action.enter o)) := by
  refine EvenFrom.bind_even ?_ fun o => even_liftM (Action.even_enter o)
  unfold construct
  split
  · exact (even_bind (even_openArguments _) fun _ => even_fileObject).from
  · exact (even_bind (even_openArguments _) fun _ => even_arrayObject _).from
  · next d =>
    have hrest := evenFrom_bind (even_openArguments (Constructor.derived d).keyword)
      (within_openArguments _) fun _ => evenFrom_derivedObject d hd he
    exact EvenFrom.ite (fun _ => evenFrom_bind (even_requireDriver _ _) (within_requireDriver _ _)
      fun _ => hrest) fun _ => hrest

end Operand

theorem even_closed (opening : Token) (e : Entity) : Even Near (closed opening e) := by
  unfold closed
  refine even_bind (even_skip _) fun close => even_ite (even_pure _) ?_
  exact even_bind (even_change fun _ _ h => h.letGo [e] [e]) fun _ => even_raise _ _

/-- **An expression** denotes the same in near sessions that are in balance. -/
theorem evenFrom_evaluateFrom : (ts : List Token) →
    EvenFrom Near (fun s => s.Balanced []) (evaluateFrom ts)
  | [] => even_missing.from
  | t :: rest => by
    have hrest := evenFrom_evaluateFrom rest
    unfold evaluateFrom
    split
    · exact (even_throw _).from
    · refine evenFrom_bind even_advance within_advance fun _ => ?_
      exact EvenFrom.bind_even hrest fun e => even_closed t e
    · refine evenFrom_bind even_advance within_advance fun _ => ?_
      refine Parallel.session_bind fun s s' h _ _ => ?_
      rw [h.env]
      split
      · exact (even_pure _).from
      · split
        · exact (even_raise _ _).from
        · exact evenFrom_construct _ t denotes_missing even_missing.from
        · next c x arguments _ =>
          exact evenFrom_construct c t (denotes_evaluateFrom arguments)
            (evenFrom_evaluateFrom arguments)
    · exact (even_raise _ _).from

theorem evenFrom_evaluate : EvenFrom Near (fun s => s.Balanced []) evaluate :=
  evenFrom_bind even_cursor within_cursor fun c => evenFrom_evaluateFrom c.pending

end Reading

end DriverBench
