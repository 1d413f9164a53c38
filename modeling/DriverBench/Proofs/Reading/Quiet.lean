import DriverBench.Proofs.Reading.Run
/-!
# Readings that only read, and readings that only print

Most of what reads a line does nothing to the session: such a reading stays within every frame.
What prints changes the text of the two streams and nothing else (`Session.Talks`); it stays within
every frame that allows for that.
-/

namespace DriverBench

open Device Number Simulator

/-- Nothing but the text on the two streams differs. -/
def Session.Talks (s s' : Session) : Prop :=
  ∃ out err : String,
    s' = { s with out := { s.out with text := out }, err := { s.err with text := err } }

/-- A frame that allows for text on the streams. -/
class Session.TalkFrame (R : Session → Session → Prop) : Prop extends Frame R where
  of_talks : ∀ s s', s.Talks s' → R s s'

instance : Session.TalkFrame Session.Talks where
  refl s := ⟨s.out.text, s.err.text, rfl⟩
  trans := by
    rintro a b c ⟨o, e, rfl⟩ ⟨o', e', rfl⟩
    exact ⟨o', e', rfl⟩
  of_talks _ _ h := h

/-- A write that goes through adds text to the stream. -/
theorem Sink.eq_of_write {s s' : Sink} {text : String} (h : s.write text = .ok s') :
    ∃ t, s' = { s with text := t } := by
  unfold Sink.write at h
  split at h
  · split at h
    · exact ⟨s.text, by cases h; rfl⟩
    · cases h
  · exact ⟨_, (Except.ok.inj h).symm⟩

variable {α σ : Type} {R : Session → Session → Prop}

/-! ## Printing -/

namespace Action

/-- A driver in use is looked up and left alone. -/
@[simp] theorem within_activeDriver [Frame R] : Within R activeDriver := by
  intro s
  unfold activeDriver
  rw [run_get_bind]
  cases s.driver? <;> exact Frame.refl s

variable [Session.TalkFrame R]

@[simp] theorem within_print (text : String) : Within R (print text) := by
  intro s
  unfold print
  rw [run_get_bind]
  cases h : s.out.write text with
  | ok out =>
    obtain ⟨t, rfl⟩ := Sink.eq_of_write h
    exact Session.TalkFrame.of_talks _ _ ⟨t, s.err.text, rfl⟩
  | error why => exact Frame.refl s

@[simp] theorem within_printError (text : String) : Within R (printError text) := by
  intro s
  unfold printError
  rw [run_get_bind]
  cases h : s.err.write text with
  | ok err =>
    obtain ⟨t, rfl⟩ := Sink.eq_of_write h
    exact Session.TalkFrame.of_talks _ _ ⟨s.out.text, t, rfl⟩
  | error why => exact Frame.refl s

@[simp] theorem within_say (text : String) : Within R (say text) := within_print _

@[simp] theorem within_warn (text : String) : Within R (warn text) := within_printError _

@[simp] theorem within_note (text : String) : Within R (note text) := by
  unfold note
  refine within_bind within_get fun s => ?_
  split
  · exact within_say text
  · exact within_pure _

end Action

/-! ## Reading tokens -/

namespace Reading

section Frame

variable [Frame R]

@[simp] theorem within_cursor : Within R cursor := fun _ s => Frame.refl s

@[simp] theorem within_session : Within R session := fun _ s => Frame.refl s

@[simp] theorem within_setCursor (c : Cursor) : Within R (set c : Reading PUnit) :=
  fun _ s => Frame.refl s

@[simp] theorem within_advance : Within R advance := fun _ s => Frame.refl s

@[simp] theorem within_skipValid : Within R skipValid := fun _ s => Frame.refl s

@[simp] theorem within_lift (value : Except Failure α) : Within R (lift value) := by
  intro _ s
  cases value <;> exact Frame.refl s

@[simp] theorem within_current : Within R current := by simp [current]

@[simp] theorem within_here : Within R here := by simp [here]

@[simp] theorem within_hasMore : Within R hasMore := by simp [hasMore]

@[simp] theorem within_consume : Within R consume := by simp [consume]

@[simp] theorem within_accept (kind : TokenKind) : Within R (accept kind) := by
  unfold accept
  refine within_bind within_cursor fun c => ?_
  split <;> simp

@[simp] theorem within_skip (kind : TokenKind) : Within R (skip kind) := by simp [skip]

@[simp] theorem within_require (kind : TokenKind) (fault : Fault) :
    Within R (require kind fault) := by
  simp [require]

@[simp] theorem within_requireDriver (keyword : String) (span : Span) :
    Within R (requireDriver keyword span) := by
  simp [requireDriver]

@[simp] theorem within_openArguments (keyword : String) : Within R (openArguments keyword) := by
  simp [openArguments]

@[simp] theorem within_closeArguments : Within R closeArguments := by simp [closeArguments]

@[simp] theorem within_comma : Within R comma := by simp [comma]

@[simp] theorem within_constantToken (what : String) : Within R (constantToken what) := by
  unfold constantToken
  exact within_bind within_current fun t => within_when (within_raise _ _) (by simp)

@[simp] theorem within_numberArgument (type : IntegerType) (what : String) :
    Within R (numberArgument type what) := by
  simp [numberArgument]

@[simp] theorem within_sizeArgument (what : String) : Within R (sizeArgument what) := by
  simp [sizeArgument]

/-! ## Reading the arguments of constructors -/

@[simp] theorem within_arrayElement (type : ElementType) (bytes : List UInt8) :
    Within R (arrayElement type bytes) := by
  unfold arrayElement
  refine within_bind (within_constantToken _) fun t => within_bind (within_lift _) fun b => ?_
  refine within_bind (within_skip _) fun more => within_ite (within_pure _) ?_
  exact within_bind (within_skip _) fun last => by split <;> simp

@[simp] theorem within_arrayObject (type : ElementType) : Within R (arrayObject type) := by
  unfold arrayObject
  exact within_bind (within_loop (within_arrayElement type) []) fun _ => within_pure _

@[simp] theorem within_fileName : Within R fileName := by
  unfold fileName
  refine within_bind within_consume fun t => ?_
  split <;> simp

@[simp] theorem within_lengthArgument (type : IntegerType) : Within R (lengthArgument type) := by
  unfold lengthArgument
  exact within_bind (within_numberArgument _ _) fun n =>
    within_when (within_raise _ _) (within_pure _)

@[simp] theorem within_filePart : Within R filePart := by
  unfold filePart
  refine within_bind (within_skip _) fun more => within_ite (within_pure _) ?_
  refine within_bind (within_numberArgument _ _) fun start => ?_
  exact within_bind (within_skip _) fun more => by split <;> simp

@[simp] theorem within_loadPart (name : String) (nameToken : Token) (part : FilePart) :
    Within R (loadPart name nameToken part) := by
  unfold loadPart
  refine within_bind within_session fun s => ?_
  split <;> simp

@[simp] theorem within_wholeFile (name : String) (nameToken : Token) (bytes : List UInt8) :
    Within R (wholeFile name nameToken bytes) := by
  unfold wholeFile
  refine within_bind within_session fun s => ?_
  split <;> simp

@[simp] theorem within_channelOrder : Within R channelOrder := by
  unfold channelOrder
  refine within_bind within_consume fun t => ?_
  split <;> simp

@[simp] theorem within_channelType : Within R channelType := by
  unfold channelType
  refine within_bind within_consume fun t => ?_
  split <;> simp

@[simp] theorem within_widthArgument : Within R widthArgument := by
  unfold widthArgument
  exact within_bind (within_sizeArgument _) fun n => within_when (within_raise _ _) (within_pure _)

@[simp] theorem within_imageForm : Within R imageForm := by
  unfold imageForm
  refine within_bind within_widthArgument fun width => within_bind within_comma fun _ => ?_
  refine within_bind (within_sizeArgument _) fun height => within_bind within_comma fun _ => ?_
  refine within_bind within_channelOrder fun order => within_bind within_comma fun _ => ?_
  exact within_bind within_channelType fun type => within_pure _

@[simp] theorem within_imageFromData (operand : Token) (source : Entity) :
    Within R (imageFromData operand source) := by
  unfold imageFromData
  split
  · simp
  · exact within_bind within_imageForm fun form => within_when (within_raise _ _) (within_pure _)

@[simp] theorem within_imageFromImage (operand : Token) (source : Entity) :
    Within R (imageFromImage operand source) := by
  unfold imageFromImage
  split <;> simp

@[simp] theorem within_buildOptions : Within R buildOptions := by simp [buildOptions]

@[simp] theorem within_kernelName : Within R kernelName := by
  unfold kernelName
  refine within_bind within_consume fun t => ?_
  split <;> simp

@[simp] theorem within_missing : Within R missing := by simp [missing]

/-! ## Reading the arguments of commands -/

@[simp] theorem within_choice (what : String) (name : α → String) (all : List α) :
    Within R (choice what name all) := by
  unfold choice
  refine within_bind within_consume fun t => ?_
  split <;> simp

@[simp] theorem within_refuseInvalid : Within R refuseInvalid := by simp [refuseInvalid]

@[simp] theorem within_pathArgument : Within R pathArgument := by
  unfold pathArgument
  refine within_bind within_current fun t => ?_
  split <;> simp

@[simp] theorem within_workDimension (sizes : List Nat) : Within R (workDimension sizes) := by
  unfold workDimension
  refine within_bind (within_sizeArgument _) fun size => ?_
  exact within_bind (within_skip _) fun more => by split <;> simp

@[simp] theorem within_workSize : Within R workSize := by
  unfold workSize
  refine within_bind (within_require _ _) fun opening => ?_
  refine within_bind (within_loop within_workDimension []) fun sizes => ?_
  exact within_bind (within_require _ _) fun closing =>
    within_when (within_raise _ _) (within_pure _)

end Frame

section Talk

variable [Session.TalkFrame R]

@[simp] theorem within_noteCutFile (part : FilePart) (available : Nat) :
    Within R (noteCutFile part available) := by
  unfold noteCutFile
  split <;> simp

@[simp] theorem within_dataPart (size : Nat) : Within R (dataPart size) := by
  unfold dataPart
  refine within_bind (within_skip _) fun more => within_ite (within_pure _) ?_
  refine within_bind (within_sizeArgument _) fun start => within_when (within_raise _ _) ?_
  refine within_bind (within_skip _) fun more => within_ite (within_pure _) ?_
  exact within_bind (within_lengthArgument _) fun requested =>
    within_when (within_liftM (Action.within_note _)) (within_pure _)

@[simp] theorem within_fileObject : Within R fileObject := by
  unfold fileObject
  refine within_bind within_fileName fun name => within_bind within_filePart fun part => ?_
  refine within_bind within_closeArguments fun _ => ?_
  refine within_bind (within_loadPart _ _ _) fun bytes => ?_
  exact within_bind (within_noteCutFile _ _) fun _ => by split <;> simp

@[simp] theorem within_warnTrailing (command : Command) : Within R (warnTrailing command) := by
  unfold warnTrailing
  exact within_bind within_cursor fun c => by split <;> simp

@[simp] theorem within_noteCleared (count : Nat) : Within R (noteCleared count) := by
  unfold noteCleared
  split <;> simp

end Talk

end Reading

/-! ## Commands that only print -/

namespace Statement

open Reading

section Frame

variable [Frame R]

@[simp] theorem within_target : Within R target := by
  unfold target
  refine within_bind within_consume fun t => within_when (within_raise _ _) ?_
  exact within_bind within_session fun s => within_when (within_raise _ _) (within_pure _)

@[simp] theorem within_truthValue : Within R truthValue := by
  unfold truthValue
  refine within_bind within_current fun t => within_bind within_hasMore fun more => ?_
  exact within_when (within_raise _ _) (by simp)

@[simp] theorem within_releasedName (names : List String) : Within R (releasedName names) := by
  unfold releasedName
  refine within_bind within_hasMore fun more => within_ite (within_pure _) ?_
  refine within_bind within_consume fun t => within_ite (within_pure _) ?_
  refine within_when (within_raise _ _) (within_bind within_session fun s => ?_)
  exact within_when (within_raise _ _) (within_pure _)

@[simp] theorem within_libraryArgument : Within R libraryArgument := by
  unfold libraryArgument
  refine within_bind within_hasMore fun more => within_ite (within_pure _) ?_
  exact within_bind within_consume fun t => by simp

@[simp] theorem within_infoTopics : Within R infoTopics := by simp [infoTopics]

@[simp] theorem within_localSizeAhead (found : LaunchRest) : Within R (localSizeAhead found) := by
  simp [localSizeAhead]

@[simp] theorem within_localSize (globalSize : List Nat) : Within R (localSize globalSize) := by
  unfold localSize
  refine within_bind within_current fun t => within_bind within_workSize fun sizes => ?_
  exact within_when (within_raise _ _) (within_pure _)

@[simp] theorem within_commandName : Within R commandName := by
  unfold commandName
  refine within_bind within_consume fun t => ?_
  split <;> simp

end Frame

variable [Session.TalkFrame R]

@[simp] theorem within_showSelection : Within R showSelection := by
  unfold showSelection
  refine within_bind (within_liftM Action.within_activeDriver) fun d => ?_
  refine within_bind (within_liftM (Action.within_say _)) fun _ => ?_
  exact within_bind (within_liftM (Action.within_say _)) fun _ => within_pure _

@[simp] theorem within_info : Within R info := by
  unfold info
  refine within_bind within_infoTopics fun topics => within_bind (within_warnTrailing _) fun _ => ?_
  exact within_bind (within_liftM Action.within_activeDriver) fun d => by simp

@[simp] theorem within_list : Within R list := by
  unfold list
  refine within_bind (within_warnTrailing _) fun _ => within_bind within_session fun s => ?_
  exact within_ite (by simp) (by simp)

@[simp] theorem within_showSettings : Within R showSettings := by
  unfold showSettings
  exact within_bind within_session fun s => by simp

@[simp] theorem within_help : Within R help := by
  unfold help
  refine within_bind within_hasMore fun more => within_ite (by simp) ?_
  refine within_bind (within_choice _ _ _) fun topic => ?_
  exact within_bind (within_warnTrailing _) fun _ => by simp

@[simp] theorem within_quit : Within R quit := by simp [quit]

end Statement

end DriverBench
