import DriverBench.Expression.Evaluate
import DriverBench.Proofs.Reading.Progress
/-!
# Where the failures of an expression point

Every failure of an expression points into the line that the expression stands in: at the token that
is wrong, or at the token that named what the driver refused. The recursion of the evaluation is
along the tokens ahead, and each of them is a token of the line.
-/

namespace DriverBench

open Device Number Simulator

variable {line : String} {α : Type}

namespace Token

variable {t : Token}

theorem In.points_unquoted (h : t.In line) {f : Failure} (hf : t.unquoted = .error f) :
    f.Points line := by
  unfold unquoted at hf
  split at hf
  · cases hf
  · obtain rfl := Except.error.inj hf
    exact Fault.points_atSpan _ h.span

theorem In.points_wordOrText (h : t.In line) {f : Failure} (hf : t.wordOrText = .error f) :
    f.Points line := by
  unfold wordOrText at hf
  split at hf
  · exact h.points_unquoted hf
  · cases hf
  · cases hf
  · obtain rfl := Except.error.inj hf
    exact Fault.points_atSpan _ h.span

theorem In.points_located (h : t.In line) {value : Except ConstantError α} {f : Failure}
    (hf : t.located value = .error f) : f.Points line := by
  unfold located at hf
  split at hf
  · cases hf
  · obtain rfl := Except.error.inj hf
    exact Fault.points_atSpan _ h.span

end Token

namespace Reading

/-! ## Arguments -/

theorem points_requireDriver (keyword : String) {sp : Span} (h : sp.In line) :
    Points line (requireDriver keyword sp) fun _ => True := by
  unfold requireDriver
  refine points_bind points_session fun s _ => ?_
  exact points_ite (fun _ => points_raise _ h) fun _ => points_pure trivial

theorem points_openArguments (keyword : String) :
    Points line (openArguments keyword) fun _ => True := by
  unfold openArguments
  refine points_bind (points_skip _) fun opened _ => ?_
  refine points_ite (fun _ => ?_) fun _ => points_pure trivial
  exact points_bind points_here fun sp hsp => points_raise _ hsp

theorem points_closeArguments : Points line closeArguments fun _ => True := by
  unfold closeArguments
  exact points_bind (points_require _ (by simp)) fun _ _ => points_pure trivial

theorem points_comma : Points line comma fun _ => True := by
  unfold comma
  exact points_bind (points_require _ (by simp)) fun _ _ => points_pure trivial

theorem takes_numberArgument (type : IntegerType) (what : String) :
    Takes line (numberArgument type what) fun p => p.2.In line := by
  unfold numberArgument
  refine takes_bind (takes_constantToken what) fun t ht => ?_
  exact points_bind (points_lift fun f hf => ht.points_located hf) fun n _ => points_pure ht

theorem points_numberArgument (type : IntegerType) (what : String) :
    Points line (numberArgument type what) fun p => p.2.In line :=
  (takes_numberArgument type what).points

theorem takes_sizeArgument (what : String) :
    Takes line (sizeArgument what) fun p => p.2.In line :=
  takes_numberArgument _ _

theorem points_sizeArgument (what : String) :
    Points line (sizeArgument what) fun p => p.2.In line :=
  points_numberArgument _ _

theorem points_lengthArgument (type : IntegerType) :
    Points line (lengthArgument type) fun _ => True := by
  unfold lengthArgument
  refine points_bind (points_numberArgument _ _) fun p hp => ?_
  exact points_guard hp.span (points_pure trivial)

/-! ## Arrays and files -/

theorem takes_arrayElement (type : ElementType) (bytes : List UInt8) :
    Takes line (arrayElement type bytes) fun _ => True := by
  unfold arrayElement
  refine takes_bind (takes_constantToken _) fun t ht => ?_
  refine points_bind (points_lift fun f hf => ht.points_located hf) fun b _ => ?_
  refine points_bind (points_skip _) fun more _ => points_ite (fun _ => points_pure trivial) ?_
  refine fun _ => points_bind (points_skip _) fun last _ => ?_
  refine points_ite (fun _ => points_pure trivial) fun _ => ?_
  exact points_bind points_here fun sp hsp => points_raise _ hsp

theorem unrolls_arrayElement (type : ElementType) : Unrolls line (arrayElement type) :=
  unrolls_of_advances fun bytes => (takes_arrayElement type bytes).advances

theorem points_arrayObject (type : ElementType) :
    Points line (arrayObject type) fun _ => True := by
  unfold arrayObject
  refine points_bind (points_loop (I := fun _ => True) (fun bytes _ => ?_) trivial) fun _ _ =>
    points_pure trivial
  exact (takes_arrayElement type bytes).points

theorem points_fileName : Points line fileName fun p => p.2.In line := by
  unfold fileName
  refine points_bind points_consume fun t ht => ?_
  split
  case h_4 => exact points_raise _ ht.span
  all_goals
    exact points_bind (points_lift fun f hf => ht.points_wordOrText hf) fun n _ => points_pure ht

theorem points_filePart :
    Points line filePart fun part => ∀ p ∈ part.start, p.2.In line := by
  unfold filePart
  refine points_bind (points_skip _) fun more _ => points_ite (fun _ => points_pure (by simp)) ?_
  refine fun _ => points_bind (points_numberArgument _ _) fun start hstart => ?_
  have hpart : ∀ p ∈ some start, p.2.In line := fun p hp => Option.mem_some.1 hp ▸ hstart
  refine points_bind (points_skip _) fun more _ => points_ite (fun _ => points_pure hpart) ?_
  exact fun _ => points_bind (points_lengthArgument _) fun length _ => points_pure hpart

/-- A file that is not loaded is blamed on its name, or on the start that lies too far. -/
theorem loadFailureSpan_in {name : Token} {part : FilePart} (hname : name.In line)
    (hpart : ∀ p ∈ part.start, p.2.In line) (e : Files.FileError) :
    (loadFailureSpan name part e).In line := by
  unfold loadFailureSpan
  split
  · rename_i hstart
    exact (hpart _ hstart).span
  · exact hname.span

theorem points_loadPart (name : String) {t : Token} {part : FilePart} (ht : t.In line)
    (hpart : ∀ p ∈ part.start, p.2.In line) :
    Points line (loadPart name t part) fun _ => True := by
  unfold loadPart
  refine points_bind points_session fun s _ => ?_
  split
  · exact points_pure trivial
  · exact points_raise _ (loadFailureSpan_in ht hpart _)

theorem points_noteCutFile (part : FilePart) (available : Nat) :
    Points line (noteCutFile part available) fun _ => True := by
  unfold noteCutFile
  split
  · refine points_ite (fun _ => ?_) fun _ => points_pure trivial
    exact points_liftM (Action.points_note _)
  · exact points_pure trivial

theorem points_wholeFile (name : String) {t : Token} (bytes : List UInt8) (ht : t.In line) :
    Points line (wholeFile name t bytes) fun _ => True := by
  unfold wholeFile
  refine points_bind points_session fun s _ => ?_
  split
  · exact points_pure trivial
  · exact points_pure trivial
  · exact points_raise _ ht.span

theorem points_fileObject : Points line fileObject fun _ => True := by
  unfold fileObject
  refine points_bind points_fileName fun ⟨name, t⟩ ht => ?_
  refine points_bind points_filePart fun part hpart => ?_
  refine points_bind points_closeArguments fun _ _ => ?_
  refine points_bind (points_loadPart name ht hpart) fun bytes _ => ?_
  refine points_bind (points_noteCutFile part _) fun _ _ => ?_
  exact points_ite (fun _ => points_pure trivial) fun _ => points_wholeFile name bytes ht

/-! ## Buffers and images -/

/-- A call that a token asked for points at that token. -/
theorem points_driveAt (call : Call α) {t : Token} (ht : t.In line) :
    Points line (liftM (Action.atSpan (Action.drive call) t.span) : Reading α) fun _ => True :=
  points_liftM (Action.points_atSpan (Action.points_drive call) ht.span)

theorem points_drive (call : Call α) :
    Points line (liftM (Action.drive call) : Reading α) fun _ => True :=
  points_liftM (Action.points_drive call)

theorem points_sizedBuffer : Points line sizedBuffer fun _ => True := by
  unfold sizedBuffer
  refine points_bind points_consume fun t ht => ?_
  refine points_bind (points_lift fun f hf => ht.points_located hf) fun size _ => ?_
  refine points_bind points_closeArguments fun _ _ => ?_
  exact points_bind (points_driveAt _ ht) fun m _ => points_pure trivial

theorem points_dataPart (size : Nat) : Points line (dataPart size) fun _ => True := by
  unfold dataPart
  refine points_bind (points_skip _) fun more _ => points_ite (fun _ => points_pure trivial) ?_
  refine fun _ => points_bind (points_sizeArgument _) fun p hp => points_guard hp.span ?_
  refine points_bind (points_skip _) fun more _ => points_ite (fun _ => points_pure trivial) ?_
  refine fun _ => points_bind (points_lengthArgument _) fun requested _ => ?_
  refine points_ite (fun _ => ?_) fun _ => points_pure trivial
  exact points_bind (points_liftM (Action.points_note _)) fun _ _ => points_pure trivial

theorem points_bufferOf (bytes : List UInt8) : Points line (bufferOf bytes) fun _ => True := by
  unfold bufferOf
  refine points_bind (points_drive _) fun m _ => points_undoing _ ?_
  exact points_bind (points_drive _) fun _ _ => points_pure trivial

theorem points_keepInFlight (e : Entity) : Points line (keepInFlight e) fun _ => True := by
  unfold keepInFlight
  refine points_bind (points_liftM Action.points_activeDriver) fun d _ => ?_
  exact points_ite (fun _ => points_change _) fun _ => points_pure trivial

theorem points_filledBuffer {operand : Token} (source : Entity) (h : operand.In line) :
    Points line (filledBuffer operand source) fun _ => True := by
  unfold filledBuffer
  split
  · exact points_raise _ h.span
  · refine points_bind (points_dataPart _) fun part _ => ?_
    refine points_bind points_closeArguments fun _ _ => ?_
    refine points_bind (points_bufferOf _) fun m _ => ?_
    exact points_bind (points_keepInFlight _) fun _ _ => points_pure trivial

theorem points_channelOrder : Points line channelOrder fun _ => True := by
  unfold channelOrder
  refine points_bind points_consume fun t ht => ?_
  split
  · exact points_pure trivial
  · exact points_raise _ ht.span

theorem points_channelType : Points line channelType fun _ => True := by
  unfold channelType
  refine points_bind points_consume fun t ht => ?_
  split
  · exact points_pure trivial
  · exact points_raise _ ht.span
  · exact points_raise _ ht.span

theorem points_widthArgument : Points line widthArgument fun _ => True := by
  unfold widthArgument
  refine points_bind (points_sizeArgument _) fun p hp => ?_
  exact points_guard hp.span (points_pure trivial)

theorem points_imageForm : Points line imageForm fun _ => True := by
  unfold imageForm
  refine points_bind points_widthArgument fun width _ => ?_
  refine points_bind points_comma fun _ _ => points_bind (points_sizeArgument _) fun height _ => ?_
  refine points_bind points_comma fun _ _ => points_bind points_channelOrder fun order _ => ?_
  refine points_bind points_comma fun _ _ => points_bind points_channelType fun type _ => ?_
  exact points_pure trivial

theorem points_imageFromData {operand : Token} (source : Entity) (h : operand.In line) :
    Points line (imageFromData operand source) fun _ => True := by
  unfold imageFromData
  split
  · exact points_raise _ h.span
  · refine points_bind points_imageForm fun form _ => ?_
    exact points_guard h.span (points_pure trivial)

theorem points_imageFromImage {operand : Token} (source : Entity) (h : operand.In line) :
    Points line (imageFromImage operand source) fun _ => True := by
  unfold imageFromImage
  split
  · exact points_pure trivial
  · exact points_raise _ h.span

theorem points_filledImage {operand : Token} (source : Entity) (h : operand.In line) :
    Points line (filledImage operand source) fun _ => True := by
  unfold filledImage
  refine points_bind (points_skip _) fun given _ => ?_
  extract_lets rest
  have hrest : ∀ pixels, Points line (rest pixels) fun _ => True := fun pixels => by
    refine points_bind points_closeArguments fun _ _ => ?_
    exact points_bind (points_drive _) fun m _ => points_pure trivial
  refine points_ite (fun _ => ?_) fun _ => ?_
  · exact points_bind (points_imageFromData source h) fun pixels _ => hrest pixels
  · exact points_bind (points_imageFromImage source h) fun pixels _ => hrest pixels

theorem points_copyMemory (m : Memory) : Points line (copyMemory m) fun _ => True := by
  unfold copyMemory
  split
  · refine points_bind (points_drive _) fun copy _ => points_undoing _ ?_
    exact points_bind (points_drive _) fun _ _ => points_pure trivial
  · refine points_bind (points_drive _) fun copy _ => points_undoing _ ?_
    exact points_bind (points_drive _) fun _ _ => points_pure trivial

theorem points_clonedObject {operand : Token} (source : Entity) (h : operand.In line) :
    Points line (clonedObject operand source) fun _ => True := by
  unfold clonedObject
  refine points_bind points_closeArguments fun _ _ => ?_
  split
  · exact points_bind (points_copyMemory _) fun m _ => points_pure trivial
  · exact points_bind (points_drive _) fun copy _ => points_pure trivial
  · exact points_raise _ h.span

/-! ## Programs and kernels -/

theorem points_buildOptions : Points line buildOptions fun _ => True := by
  unfold buildOptions
  refine points_bind (points_skip _) fun more _ => points_ite (fun _ => points_pure trivial) ?_
  refine fun _ => points_bind points_consume fun t ht => ?_
  exact points_lift fun f hf => ht.points_unquoted hf

theorem points_build (program : Handle) (options : String) :
    Action.Points line (build program options) := by
  unfold build
  refine Action.points_tryCatch (Action.points_drive _) fun f hf => ?_
  split
  · exact Action.points_bind (Action.points_printError _) fun _ => Action.points_throw hf
  · exact Action.points_throw hf

theorem points_builtProgram (program : Handle) (options : String) :
    Points line (builtProgram program options) fun _ => True := by
  unfold builtProgram
  refine points_undoing _ ?_
  exact points_bind (points_liftM (points_build program options)) fun _ _ => points_pure trivial

theorem points_programOfSource (source : String) :
    Points line (programOfSource source) fun _ => True := by
  unfold programOfSource
  refine points_bind points_buildOptions fun options _ => ?_
  refine points_bind points_closeArguments fun _ _ => ?_
  exact points_bind (points_drive _) fun program _ => points_builtProgram program options

theorem points_quotedProgram : Points line quotedProgram fun _ => True := by
  unfold quotedProgram
  refine points_bind points_consume fun t ht => ?_
  refine points_bind (points_lift fun f hf => ht.points_unquoted hf) fun source _ => ?_
  exact points_programOfSource source

theorem points_dataProgram {operand : Token} (source : Entity) (h : operand.In line) :
    Points line (dataProgram operand source) fun _ => True := by
  unfold dataProgram
  split
  · exact points_raise _ h.span
  · exact points_programOfSource _

theorem points_binaryProgram {operand : Token} (source : Entity) (h : operand.In line) :
    Points line (binaryProgram operand source) fun _ => True := by
  unfold binaryProgram
  split
  · exact points_raise _ h.span
  · refine points_bind points_buildOptions fun options _ => ?_
    refine points_bind points_closeArguments fun _ _ => ?_
    exact points_bind (points_driveAt _ h) fun program _ => points_builtProgram program options

theorem points_kernelName : Points line kernelName fun p => p.2.In line := by
  unfold kernelName
  refine points_bind points_consume fun t ht => ?_
  split
  case h_3 => exact points_raise _ ht.span
  all_goals
    exact points_bind (points_lift fun f hf => ht.points_wordOrText hf) fun n _ => points_pure ht

theorem points_programKernel {operand : Token} (source : Entity) (h : operand.In line) :
    Points line (programKernel operand source) fun _ => True := by
  unfold programKernel
  split
  · exact points_raise _ h.span
  · refine points_bind points_comma fun _ _ => ?_
    refine points_bind points_kernelName fun ⟨name, t⟩ ht => ?_
    refine points_bind points_closeArguments fun _ _ => ?_
    exact points_bind (points_driveAt _ ht) fun kernel _ => points_pure trivial

/-! ## Expressions -/

theorem points_plain? {d : Derivation} {kind : TokenKind} {r : Reading Object}
    (h : plain? d kind = some r) : Points line r fun _ => True := by
  unfold plain? at h
  split at h
  · obtain rfl := Option.some.inj h
    exact points_sizedBuffer
  · obtain rfl := Option.some.inj h
    exact points_quotedProgram
  · cases h

theorem points_derive (d : Derivation) {first : Token} (source : Entity) (h : first.In line) :
    Points line (derive d first source) fun _ => True := by
  cases d with
  | clone => exact points_clonedObject source h
  | buffer => exact points_filledBuffer source h
  | image => exact points_filledImage source h
  | program => exact points_dataProgram source h
  | binary => exact points_binaryProgram source h
  | kernel => exact points_programKernel source h

variable {operand : Reading Entity}

theorem points_derivedObject (d : Derivation) (ho : Points line operand fun _ => True) :
    Points line (derivedObject d operand) fun _ => True := by
  unfold derivedObject
  refine points_bind points_current fun first hfirst => ?_
  split
  · rename_i hplain
    exact points_plain? hplain
  · exact points_bind ho fun source _ => points_holding source (points_derive d source hfirst)

theorem points_construct (c : Constructor) {word : Token} (hword : word.In line)
    (ho : Points line operand fun _ => True) :
    Points line (construct c word operand) fun _ => True := by
  unfold construct
  split
  · exact points_bind (points_openArguments _) fun _ _ => points_fileObject
  · exact points_bind (points_openArguments _) fun _ _ => points_arrayObject _
  · rename_i d
    extract_lets rest
    have hrest : ∀ u, Points line (rest u) fun _ => True := fun _ =>
      points_bind (points_openArguments _) fun _ _ => points_derivedObject d ho
    refine points_ite (fun _ => ?_) fun _ => hrest ()
    exact points_bind (points_requireDriver _ hword.span) fun u _ => hrest u

theorem points_closed {opening : Token} (e : Entity) (h : opening.In line) :
    Points line (closed opening e) fun _ => True := by
  unfold closed
  refine points_bind (points_skip _) fun more _ => points_ite (fun _ => points_pure trivial) ?_
  exact fun _ => points_bind (points_change _) fun _ _ => points_raise _ h.span

theorem points_missing : Points line missing fun _ => True := by
  unfold missing
  exact points_bind points_here fun sp hsp => points_raise _ hsp

/-- What an expression is that is not missing: a failure at its first token, or whatever comes
behind that. -/
theorem evaluateFrom_cons {t : Token} {rest : List Token} (ht : t.In line)
    (hrest : Points line (evaluateFrom rest) fun _ => True)
    (harguments : ∀ u arguments, rest = u :: arguments →
      Points line (evaluateFrom arguments) fun _ => True) :
    (∃ f : Failure, f.Points line ∧ evaluateFrom (t :: rest) = throw f) ∨
    ∃ r, Points line r (fun _ => True) ∧ evaluateFrom (t :: rest) = advance >>= fun _ => r := by
  rw [evaluateFrom.eq_def]
  dsimp only
  split
  · exact .inl ⟨_, ht.points_invalidFailure, rfl⟩
  · exact .inr ⟨_, points_bind hrest fun e _ => points_closed e ht, rfl⟩
  · refine .inr ⟨_, points_bind points_session fun s _ => ?_, rfl⟩
    split
    · exact points_pure trivial
    · split
      · exact points_raise _ ht.span
      · exact points_bind (points_construct _ ht points_missing) fun o _ =>
          points_liftM (Action.points_enter o)
      · next c x arguments _ =>
        exact points_bind (points_construct c ht (harguments _ _ rfl)) fun o _ =>
          points_liftM (Action.points_enter o)
  · exact .inl ⟨_, Fault.points_atSpan _ ht.span, rfl⟩

/-- **The failures of an expression point into its line**, if the tokens that it is read from are
tokens of the line. -/
theorem points_evaluateFrom :
    (ts : List Token) → (∀ t ∈ ts, t.In line) → Points line (evaluateFrom ts) fun _ => True
  | [], _ => points_missing
  | t :: rest, hts => by
    have hrest := points_evaluateFrom rest fun u hu => hts u (List.mem_cons_of_mem _ hu)
    have harguments : ∀ u arguments, rest = u :: arguments →
        Points line (evaluateFrom arguments) fun _ => True := by
      rintro u arguments rfl
      exact points_evaluateFrom arguments fun v hv =>
        hts v (List.mem_cons_of_mem _ (List.mem_cons_of_mem _ hv))
    rcases evaluateFrom_cons (hts t List.mem_cons_self) hrest harguments with
      ⟨f, hf, heq⟩ | ⟨r, hr, heq⟩
    · rw [heq]
      exact points_throw hf
    · rw [heq]
      exact points_bind points_advance fun _ _ => hr

/-- An expression takes the token that it starts with. At the end of the line there is none, and it
fails. -/
theorem takes_evaluate : Takes line evaluate fun _ => True := by
  intro c s hc
  have hstart : evaluate.run c s = (evaluateFrom c.pending).run c s := rfl
  rw [hstart]
  rcases hp : c.pending with _ | ⟨t, rest⟩
  · exact Fault.points_atSpan _ hc.current.span
  have hin : ∀ ts : List Token, (∀ u ∈ ts, u ∈ c.pending) →
      Points line (evaluateFrom ts) fun _ => True :=
    fun ts hts => points_evaluateFrom ts fun u hu => hc.ahead u (hts u hu)
  have hrest := hin rest (by simp +contextual [hp])
  have harguments : ∀ u arguments, rest = u :: arguments →
      Points line (evaluateFrom arguments) fun _ => True := by
    rintro u arguments rfl
    exact hin arguments (by simp +contextual [hp])
  rcases evaluateFrom_cons (hc.ahead t (by simp [hp])) hrest harguments with
    ⟨f, hf, heq⟩ | ⟨r, hr, heq⟩
  · rw [heq]
    exact hf
  · have h := hr c.advance s (hc.of_leads c.leads_advance)
    have hrun : (advance >>= fun _ => r).run c s = r.run c.advance s := rfl
    rw [heq, hrun]
    rcases hx : r.run c.advance s with ⟨⟨f | e, c'⟩, s'⟩
    · rw [hx] at h
      exact h
    · rw [hx] at h
      have hle := h.2.length_le
      rw [Cursor.advance, hp, List.tail_cons] at hle
      exact ⟨trivial, c.leads_advance.trans h.2, Nat.lt_succ_of_le hle⟩

end Reading

end DriverBench
