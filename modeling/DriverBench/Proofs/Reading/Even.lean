import DriverBench.Proofs.Session.Near
/-!
# Reading alike in near sessions

What reads a line looks at the bindings, at the files and at whether there is a driver, and all of
these are the same in near sessions (`Session.Near`). What prints goes through in both. So most
readings are even; the exceptions show or heed what may differ, and then it comes to the same: the
settings are only printed, and whether an operation is waited for is a matter of the operations
under way.
-/

namespace DriverBench

open Device Number Simulator
open Session (Near)

variable {α σ : Type}

namespace Reading

/-! ## Reading tokens -/

@[simp] theorem even_cursor : Even Near cursor := fun _ _ _ hs _ _ => ⟨rfl, hs⟩

@[simp] theorem even_setCursor (c : Cursor) : Even Near (set c : Reading PUnit) :=
  fun _ _ _ hs _ _ => ⟨rfl, hs⟩

@[simp] theorem even_advance : Even Near advance := fun _ _ _ hs _ _ => ⟨rfl, hs⟩

@[simp] theorem even_skipValid : Even Near skipValid := fun _ _ _ hs _ _ => ⟨rfl, hs⟩

@[simp] theorem even_lift (value : Except Failure α) : Even Near (lift value) := by
  cases value
  · exact even_throw _
  · exact even_pure _

@[simp] theorem even_current : Even Near current := by simp [current]

@[simp] theorem even_here : Even Near here := by simp [here]

@[simp] theorem even_hasMore : Even Near hasMore := by simp [hasMore]

@[simp] theorem even_consume : Even Near consume := by simp [consume]

@[simp] theorem even_accept (kind : TokenKind) : Even Near (accept kind) := by
  unfold accept
  refine even_bind even_cursor fun c => ?_
  split <;> simp

@[simp] theorem even_skip (kind : TokenKind) : Even Near (skip kind) := by simp [skip]

@[simp] theorem even_require (kind : TokenKind) (fault : Fault) :
    Even Near (require kind fault) := by
  simp [require]

/-- There is a driver in both sessions or in neither. -/
@[simp] theorem even_requireDriver (keyword : String) (span : Span) :
    Even Near (requireDriver keyword span) := by
  unfold requireDriver
  exact even_session_bind (fun s s' h => by rw [h.isNone_driver?]) fun s => by simp

@[simp] theorem even_openArguments (keyword : String) : Even Near (openArguments keyword) := by
  simp [openArguments]

@[simp] theorem even_closeArguments : Even Near closeArguments := by simp [closeArguments]

@[simp] theorem even_comma : Even Near comma := by simp [comma]

@[simp] theorem even_constantToken (what : String) : Even Near (constantToken what) := by
  unfold constantToken
  exact even_bind even_current fun t => even_when (even_raise _ _) (by simp)

@[simp] theorem even_numberArgument (type : IntegerType) (what : String) :
    Even Near (numberArgument type what) := by
  simp [numberArgument]

@[simp] theorem even_sizeArgument (what : String) : Even Near (sizeArgument what) := by
  simp [sizeArgument]

/-! ## Reading the arguments of constructors -/

@[simp] theorem even_arrayElement (type : ElementType) (bytes : List UInt8) :
    Even Near (arrayElement type bytes) := by
  unfold arrayElement
  refine even_bind (even_constantToken _) fun t => even_bind (even_lift _) fun b => ?_
  refine even_bind (even_skip _) fun more => even_ite (even_pure _) ?_
  exact even_bind (even_skip _) fun last => by split <;> simp

@[simp] theorem even_arrayObject (type : ElementType) : Even Near (arrayObject type) := by
  unfold arrayObject
  exact even_bind (even_loop (even_arrayElement type) []) fun _ => even_pure _

@[simp] theorem even_fileName : Even Near fileName := by
  unfold fileName
  refine even_bind even_consume fun t => ?_
  split <;> simp

@[simp] theorem even_lengthArgument (type : IntegerType) : Even Near (lengthArgument type) := by
  unfold lengthArgument
  exact even_bind (even_numberArgument _ _) fun n => even_when (even_raise _ _) (even_pure _)

@[simp] theorem even_filePart : Even Near filePart := by
  unfold filePart
  refine even_bind (even_skip _) fun more => even_ite (even_pure _) ?_
  refine even_bind (even_numberArgument _ _) fun start => ?_
  exact even_bind (even_skip _) fun more => by split <;> simp

@[simp] theorem even_loadPart (name : String) (nameToken : Token) (part : FilePart) :
    Even Near (loadPart name nameToken part) := by
  unfold loadPart
  refine even_session_bind (fun s s' h => by rw [h.files]) fun s => ?_
  split <;> simp

@[simp] theorem even_wholeFile (name : String) (nameToken : Token) (bytes : List UInt8) :
    Even Near (wholeFile name nameToken bytes) := by
  unfold wholeFile
  refine even_session_bind (fun s s' h => by rw [h.codec]) fun s => ?_
  split <;> simp

@[simp] theorem even_noteCutFile (part : FilePart) (available : Nat) :
    Even Near (noteCutFile part available) := by
  unfold noteCutFile
  split <;> simp

@[simp] theorem even_fileObject : Even Near fileObject := by
  unfold fileObject
  refine even_bind even_fileName fun name => even_bind even_filePart fun part => ?_
  refine even_bind even_closeArguments fun _ => ?_
  refine even_bind (even_loadPart _ _ _) fun bytes => ?_
  exact even_bind (even_noteCutFile _ _) fun _ => by split <;> simp

@[simp] theorem even_dataPart (size : Nat) : Even Near (dataPart size) := by
  unfold dataPart
  refine even_bind (even_skip _) fun more => even_ite (even_pure _) ?_
  refine even_bind (even_sizeArgument _) fun start => even_when (even_raise _ _) ?_
  refine even_bind (even_skip _) fun more => even_ite (even_pure _) ?_
  exact even_bind (even_lengthArgument _) fun requested =>
    even_when (even_liftM (Action.even_note _)) (even_pure _)

@[simp] theorem even_channelOrder : Even Near channelOrder := by
  unfold channelOrder
  refine even_bind even_consume fun t => ?_
  split <;> simp

@[simp] theorem even_channelType : Even Near channelType := by
  unfold channelType
  refine even_bind even_consume fun t => ?_
  split <;> simp

@[simp] theorem even_widthArgument : Even Near widthArgument := by
  unfold widthArgument
  exact even_bind (even_sizeArgument _) fun n => even_when (even_raise _ _) (even_pure _)

@[simp] theorem even_imageForm : Even Near imageForm := by
  unfold imageForm
  refine even_bind even_widthArgument fun width => even_bind even_comma fun _ => ?_
  refine even_bind (even_sizeArgument _) fun height => even_bind even_comma fun _ => ?_
  refine even_bind even_channelOrder fun order => even_bind even_comma fun _ => ?_
  exact even_bind even_channelType fun type => even_pure _

@[simp] theorem even_imageFromData (operand : Token) (source : Entity) :
    Even Near (imageFromData operand source) := by
  unfold imageFromData
  split
  · simp
  · exact even_bind even_imageForm fun form => even_when (even_raise _ _) (even_pure _)

@[simp] theorem even_imageFromImage (operand : Token) (source : Entity) :
    Even Near (imageFromImage operand source) := by
  unfold imageFromImage
  split <;> simp

@[simp] theorem even_buildOptions : Even Near buildOptions := by simp [buildOptions]

@[simp] theorem even_kernelName : Even Near kernelName := by
  unfold kernelName
  refine even_bind even_consume fun t => ?_
  split <;> simp

@[simp] theorem even_missing : Even Near missing := by simp [missing]

/-! ## Reading the arguments of commands -/

@[simp] theorem even_choice (what : String) (name : α → String) (all : List α) :
    Even Near (choice what name all) := by
  unfold choice
  refine even_bind even_consume fun t => ?_
  split <;> simp

@[simp] theorem even_warnTrailing (command : Command) : Even Near (warnTrailing command) := by
  unfold warnTrailing
  exact even_bind even_cursor fun c => by split <;> simp

@[simp] theorem even_noteCleared (count : Nat) : Even Near (noteCleared count) := by
  unfold noteCleared
  split <;> simp

@[simp] theorem even_refuseInvalid : Even Near refuseInvalid := by simp [refuseInvalid]

@[simp] theorem even_pathArgument : Even Near pathArgument := by
  unfold pathArgument
  refine even_bind even_current fun t => ?_
  split <;> simp

@[simp] theorem even_workDimension (sizes : List Nat) : Even Near (workDimension sizes) := by
  unfold workDimension
  refine even_bind (even_sizeArgument _) fun size => ?_
  exact even_bind (even_skip _) fun more => by split <;> simp

@[simp] theorem even_workSize : Even Near workSize := by
  unfold workSize
  refine even_bind (even_require _ _) fun opening => ?_
  refine even_bind (even_loop even_workDimension []) fun sizes => ?_
  exact even_bind (even_require _ _) fun closing => even_when (even_raise _ _) (even_pure _)

/-! ## What is waited for -/

/-- An operation under way is noted on one side and was waited for on the other, or it is so on both
sides. -/
theorem parallel_inFlight {P : Session → Prop} {p p' : Prop} [Decidable p] [Decidable p']
    (es : List Entity) :
    Parallel Near P
      (if p then change fun s => { s with inFlight := s.inFlight ++ es } else pure ())
      (if p' then change fun s => { s with inFlight := s.inFlight ++ es } else pure ()) := by
  intro c s s' h _ _
  split <;> split <;> exact ⟨rfl, { h with }⟩

@[simp] theorem even_keepInFlight (e : Entity) : Even Near (keepInFlight e) := by
  unfold keepInFlight
  exact evenFrom_activeDriver_bind fun d d' _ => parallel_inFlight [e]

end Reading

/-! ## Commands that read and print -/

namespace Statement

open Reading

@[simp] theorem even_target : Even Near target := by
  unfold target
  refine even_bind even_consume fun t => even_when (even_raise _ _) ?_
  refine even_session_bind (fun s s' h => by rw [h.env]) fun s => ?_
  exact even_when (even_raise _ _) (even_pure _)

@[simp] theorem even_truthValue : Even Near truthValue := by
  unfold truthValue
  refine even_bind even_current fun t => even_bind even_hasMore fun more => ?_
  exact even_when (even_raise _ _) (by simp)

@[simp] theorem even_releasedName (names : List String) : Even Near (releasedName names) := by
  unfold releasedName
  refine even_bind even_hasMore fun more => even_ite (even_pure _) ?_
  refine even_bind even_consume fun t => even_ite (even_pure _) ?_
  refine even_when (even_raise _ _) (even_session_bind (fun s s' h => by rw [h.env]) fun s => ?_)
  exact even_when (even_raise _ _) (even_pure _)

@[simp] theorem even_libraryArgument : Even Near libraryArgument := by
  unfold libraryArgument
  refine even_bind even_hasMore fun more => even_ite (even_pure _) ?_
  exact even_bind even_consume fun t => by simp

@[simp] theorem even_infoTopics : Even Near infoTopics := by simp [infoTopics]

@[simp] theorem even_localSizeAhead (found : LaunchRest) : Even Near (localSizeAhead found) := by
  simp [localSizeAhead]

@[simp] theorem even_localSize (globalSize : List Nat) : Even Near (localSize globalSize) := by
  unfold localSize
  refine even_bind even_current fun t => even_bind even_workSize fun sizes => ?_
  exact even_when (even_raise _ _) (even_pure _)

@[simp] theorem even_commandName : Even Near commandName := by
  unfold commandName
  refine even_bind even_consume fun t => ?_
  split <;> simp

theorem even_showSelection : Even Near showSelection := by
  unfold showSelection
  refine evenFrom_activeDriver_bind fun d d' h => ?_
  rw [h.selection]
  refine (even_bind (even_liftM (Action.even_say _)) fun _ => ?_).from
  exact even_bind (even_liftM (Action.even_say _)) fun _ => even_pure _

theorem even_info : Even Near info := by
  unfold info
  refine even_bind even_infoTopics fun topics => even_bind (even_warnTrailing _) fun _ => ?_
  refine evenFrom_activeDriver_bind fun d d' h => ?_
  rw [h.selection]
  exact (even_bind (even_liftM (Action.even_print _)) fun _ => even_pure _).from

theorem even_list : Even Near list := by
  unfold list
  refine even_bind (even_warnTrailing _) fun _ => ?_
  refine even_session_bind (fun s s' h => by rw [h.env]) fun s => ?_
  exact even_ite (by simp) (by simp)

/-- The settings may differ, and they are no more than shown. -/
theorem even_showSettings : Even Near showSettings := by
  unfold showSettings
  refine Parallel.session_bind fun s s' _ _ _ => ?_
  exact Parallel.bind (Parallel.liftM (Action.parallel_print _ _)) Ensures.any Ensures.any
    fun _ => even_pure _

theorem even_help : Even Near help := by
  unfold help
  refine even_bind even_hasMore fun more => even_ite (by simp) ?_
  refine even_bind (even_choice _ _ _) fun topic => ?_
  exact even_bind (even_warnTrailing _) fun _ => by simp

theorem even_quit : Even Near quit := by simp [quit]

end Statement

end DriverBench
