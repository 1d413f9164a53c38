import DriverBench.Expression.Evaluate
import DriverBench.Proofs.Reading.Onward
/-!
# Evaluation only goes onward

An expression is read onward whatever becomes of it: where something in it is wrong the cursor is
left there, before a rest of the tokens that were ahead (`onward_evaluate`).
-/

namespace DriverBench

open Device Number Simulator

namespace Reading

/-! ## Arrays and files -/

@[simp] theorem onward_arrayElement (type : ElementType) (bytes : List UInt8) :
    Onward (arrayElement type bytes) := by
  unfold arrayElement
  refine onward_bind (onward_constantToken _) fun t => onward_bind (onward_lift _) fun b => ?_
  refine onward_bind (onward_skip _) fun more => onward_ite (onward_pure _) ?_
  exact onward_bind (onward_skip _) fun last => by split <;> simp

@[simp] theorem onward_arrayObject (type : ElementType) : Onward (arrayObject type) := by
  simp [arrayObject]

@[simp] theorem onward_fileName : Onward fileName := by
  unfold fileName
  refine onward_bind onward_consume fun t => ?_
  split <;> simp

@[simp] theorem onward_lengthArgument (type : IntegerType) : Onward (lengthArgument type) := by
  unfold lengthArgument
  exact onward_bind (onward_numberArgument _ _) fun n =>
    onward_when (onward_raise _ _) (onward_pure _)

@[simp] theorem onward_filePart : Onward filePart := by
  unfold filePart
  refine onward_bind (onward_skip _) fun more => onward_ite (onward_pure _) ?_
  refine onward_bind (onward_numberArgument _ _) fun start => ?_
  exact onward_bind (onward_skip _) fun more => by split <;> simp

@[simp] theorem onward_loadPart (name : String) (nameToken : Token) (part : FilePart) :
    Onward (loadPart name nameToken part) := by
  unfold loadPart
  refine onward_bind onward_session fun s => ?_
  split <;> simp

@[simp] theorem onward_noteCutFile (part : FilePart) (available : Nat) :
    Onward (noteCutFile part available) := by
  unfold noteCutFile
  split <;> simp

@[simp] theorem onward_wholeFile (name : String) (nameToken : Token) (bytes : List UInt8) :
    Onward (wholeFile name nameToken bytes) := by
  unfold wholeFile
  refine onward_bind onward_session fun s => ?_
  split <;> simp

@[simp] theorem onward_fileObject : Onward fileObject := by
  unfold fileObject
  refine onward_bind onward_fileName fun name => onward_bind onward_filePart fun part => ?_
  refine onward_bind onward_closeArguments fun _ => ?_
  refine onward_bind (onward_loadPart _ _ _) fun bytes => ?_
  exact onward_bind (onward_noteCutFile _ _) fun _ => by split <;> simp

/-! ## Buffers and images -/

@[simp] theorem onward_sizedBuffer : Onward sizedBuffer := by
  unfold sizedBuffer
  refine onward_bind onward_consume fun t => onward_bind (onward_lift _) fun size => ?_
  exact onward_bind onward_closeArguments fun _ => by simp

@[simp] theorem onward_dataPart (size : Nat) : Onward (dataPart size) := by
  unfold dataPart
  refine onward_bind (onward_skip _) fun more => onward_ite (onward_pure _) ?_
  refine onward_bind (onward_sizeArgument _) fun start => onward_when (onward_raise _ _) ?_
  refine onward_bind (onward_skip _) fun more => onward_ite (onward_pure _) ?_
  exact onward_bind (onward_lengthArgument _) fun requested =>
    onward_when (onward_liftM _) (onward_pure _)

@[simp] theorem onward_bufferOf (bytes : List UInt8) : Onward (bufferOf bytes) := by
  unfold bufferOf
  exact onward_bind (onward_liftM _) fun m => onward_undoing _ (by simp)

@[simp] theorem onward_keepInFlight (e : Entity) : Onward (keepInFlight e) := by
  simp [keepInFlight]

@[simp] theorem onward_filledBuffer (operand : Token) (source : Entity) :
    Onward (filledBuffer operand source) := by
  unfold filledBuffer
  split
  · exact onward_raise _ _
  · refine onward_bind (onward_dataPart _) fun part => onward_bind onward_closeArguments fun _ => ?_
    exact onward_bind (onward_bufferOf _) fun m => by simp

@[simp] theorem onward_channelOrder : Onward channelOrder := by
  unfold channelOrder
  refine onward_bind onward_consume fun t => ?_
  split <;> simp

@[simp] theorem onward_channelType : Onward channelType := by
  unfold channelType
  refine onward_bind onward_consume fun t => ?_
  split <;> simp

@[simp] theorem onward_widthArgument : Onward widthArgument := by
  unfold widthArgument
  exact onward_bind (onward_sizeArgument _) fun n =>
    onward_when (onward_raise _ _) (onward_pure _)

@[simp] theorem onward_imageForm : Onward imageForm := by
  unfold imageForm
  refine onward_bind onward_widthArgument fun width => onward_bind onward_comma fun _ => ?_
  refine onward_bind (onward_sizeArgument _) fun height => onward_bind onward_comma fun _ => ?_
  refine onward_bind onward_channelOrder fun order => onward_bind onward_comma fun _ => ?_
  exact onward_bind onward_channelType fun type => onward_pure _

@[simp] theorem onward_imageFromData (operand : Token) (source : Entity) :
    Onward (imageFromData operand source) := by
  unfold imageFromData
  split
  · simp
  · exact onward_bind onward_imageForm fun form => onward_when (onward_raise _ _) (onward_pure _)

@[simp] theorem onward_imageFromImage (operand : Token) (source : Entity) :
    Onward (imageFromImage operand source) := by
  unfold imageFromImage
  split <;> simp

@[simp] theorem onward_filledImage (operand : Token) (source : Entity) :
    Onward (filledImage operand source) := by
  unfold filledImage
  refine onward_bind (onward_skip _) fun more => ?_
  extract_lets rest
  have hrest : ∀ form, Onward (rest form) := fun form =>
    onward_bind onward_closeArguments fun _ => by simp
  exact onward_ite (onward_bind (onward_imageFromData _ _) hrest)
    (onward_bind (onward_imageFromImage _ _) hrest)

@[simp] theorem onward_copyMemory (m : Memory) : Onward (copyMemory m) := by
  unfold copyMemory
  split <;> exact onward_bind (onward_liftM _) fun copy => onward_undoing _ (by simp)

@[simp] theorem onward_clonedObject (operand : Token) (source : Entity) :
    Onward (clonedObject operand source) := by
  unfold clonedObject
  refine onward_bind onward_closeArguments fun _ => ?_
  split <;> simp

/-! ## Programs and kernels -/

@[simp] theorem onward_buildOptions : Onward buildOptions := by simp [buildOptions]

@[simp] theorem onward_builtProgram (program : Handle) (options : String) :
    Onward (builtProgram program options) := by
  simp [builtProgram]

@[simp] theorem onward_programOfSource (source : String) : Onward (programOfSource source) := by
  unfold programOfSource
  refine onward_bind onward_buildOptions fun options => ?_
  refine onward_bind onward_closeArguments fun _ => ?_
  exact onward_bind (onward_liftM _) fun program => onward_builtProgram _ _

@[simp] theorem onward_quotedProgram : Onward quotedProgram := by simp [quotedProgram]

@[simp] theorem onward_dataProgram (operand : Token) (source : Entity) :
    Onward (dataProgram operand source) := by
  unfold dataProgram
  split <;> simp

@[simp] theorem onward_binaryProgram (operand : Token) (source : Entity) :
    Onward (binaryProgram operand source) := by
  unfold binaryProgram
  split
  · exact onward_raise _ _
  · refine onward_bind onward_buildOptions fun options => ?_
    refine onward_bind onward_closeArguments fun _ => ?_
    exact onward_bind (onward_liftM _) fun program => onward_builtProgram _ _

@[simp] theorem onward_kernelName : Onward kernelName := by
  unfold kernelName
  refine onward_bind onward_consume fun t => ?_
  split <;> simp

@[simp] theorem onward_programKernel (operand : Token) (source : Entity) :
    Onward (programKernel operand source) := by
  unfold programKernel
  split
  · exact onward_raise _ _
  · refine onward_bind onward_comma fun _ => onward_bind onward_kernelName fun name => ?_
    exact onward_bind onward_closeArguments fun _ => by simp

/-! ## Expressions -/

@[simp] theorem onward_derive (d : Derivation) (operand : Token) (source : Entity) :
    Onward (derive d operand source) := by
  cases d <;> simp [derive]

theorem onward_plain {d : Derivation} {kind : TokenKind} {object : Reading Object}
    (h : plain? d kind = some object) : Onward object := by
  unfold plain? at h
  split at h
  · exact Option.some.inj h ▸ onward_sizedBuffer
  · exact Option.some.inj h ▸ onward_quotedProgram
  · cases h

theorem onward_derivedObject (d : Derivation) {operand : Reading Entity} (h : Onward operand) :
    Onward (derivedObject d operand) := by
  unfold derivedObject
  refine onward_bind onward_current fun first => ?_
  split
  · next object ho => exact onward_plain ho
  · simp [h]

theorem onward_construct (c : Constructor) (word : Token) {operand : Reading Entity}
    (h : Onward operand) : Onward (construct c word operand) := by
  unfold construct
  split
  · exact onward_bind (onward_openArguments _) fun _ => onward_fileObject
  · exact onward_bind (onward_openArguments _) fun _ => onward_arrayObject _
  · exact onward_when (onward_requireDriver _ _)
      (onward_bind (onward_openArguments _) fun _ => onward_derivedObject _ h)

@[simp] theorem onward_closed (opening : Token) (e : Entity) : Onward (closed opening e) := by
  simp [closed]

@[simp] theorem onward_missing : Onward missing := by simp [missing]

theorem onward_evaluateFrom : (ts : List Token) → Onward (evaluateFrom ts)
  | [] => onward_missing
  | t :: rest => by
    have hrest := onward_evaluateFrom rest
    unfold evaluateFrom
    split
    · exact onward_throw _
    · exact onward_bind onward_advance fun _ => onward_bind hrest fun e => onward_closed t e
    · refine onward_bind onward_advance fun _ => onward_bind onward_session fun s => ?_
      split
      · exact onward_pure _
      · split
        · exact onward_raise _ _
        · exact onward_bind (onward_construct _ t onward_missing) fun o => onward_liftM _
        · next c x arguments _ =>
          exact onward_bind (onward_construct c t (onward_evaluateFrom arguments))
            fun o => onward_liftM _
    · exact onward_raise _ _

/-- **Evaluation never goes back**, however it ends. -/
@[simp] theorem onward_evaluate : Onward evaluate :=
  onward_bind onward_cursor fun c => onward_evaluateFrom c.pending

end Reading

end DriverBench
