import DriverBench.Proofs.Expression.Recursion
import DriverBench.Proofs.Reading.Alike
/-!
# Expressions on two lines whose tokens are alike

Every constructor reads tokens and asks for nothing else of the line, so on two lines with the same
tokens it comes to the same (`alike_evaluate`). The places of failures are those of tokens that were
read or that stand ahead, and each constructor remembers them as tokens, not as bytes.
-/

namespace DriverBench

open Device Files Number Simulator

namespace Pairing

open Reading

variable {p : Pairing} {n : Nat} {t t' : Token}

/-! ## Files -/

/-- The same part of a file, said at pairs of tokens. -/
structure Parts (p : Pairing) (part part' : FilePart) : Prop where
  start : Option.Rel p.With part.start part'.start
  length : part'.length = part.length

theorem Parts.offset {part part' : FilePart} (h : p.Parts part part') :
    part'.start.map Prod.fst = part.start.map Prod.fst := by
  rcases part with ⟨start, length⟩
  rcases part' with ⟨start', length'⟩
  cases h.start with
  | none => rfl
  | some hstart => exact congrArg some hstart.1.symm

theorem spans_loadFailure {part part' : FilePart} (ht : p.Pairs t t') (h : p.Parts part part')
    (e : FileError) : p.Spans (loadFailureSpan t part e) (loadFailureSpan t' part' e) := by
  rcases part with ⟨start, length⟩
  rcases part' with ⟨start', length'⟩
  unfold loadFailureSpan
  cases h.start with
  | none => cases e <;> exact .of_pairs ht
  | some hstart => cases e <;> first | exact .of_pairs ht | exact .of_pairs hstart.2

theorem alike_fileName : p.Alike n fileName fileName p.With := by
  unfold fileName
  refine alike_consume.bind fun t t' ht => ?_
  have hname : p.Alike n (do let name ← lift t.wordOrText; return (name, t))
      (do let name ← lift t'.wordOrText; return (name, t')) p.With :=
    (alike_lift (answers_wordOrText ht)).bind fun _ _ heq => alike_pure ⟨heq, ht⟩
  rw [p.kind_eq ht]
  split
  · exact hname
  · exact hname
  · exact hname
  · exact alike_raise _ (.of_pairs ht)

theorem alike_lengthArgument (type : IntegerType) :
    p.Alike n (lengthArgument type) (lengthArgument type) Eq := by
  unfold lengthArgument
  refine (alike_numberArgument type _).bind fun ⟨length, t⟩ ⟨length', t'⟩ ⟨hlength, ht⟩ => ?_
  obtain rfl : length = length' := hlength
  exact alike_guard (.of_pairs ht) (alike_pure rfl)

theorem alike_filePart : p.Alike n filePart filePart p.Parts := by
  unfold filePart
  refine (alike_skip _).bind fun more _ heq => heq ▸ alike_ite (alike_pure ⟨.none, rfl⟩) ?_
  refine (alike_numberArgument _ _).bind fun start start' hstart => ?_
  refine (alike_skip _).bind fun more _ heq => heq ▸ ?_
  refine alike_ite (alike_pure ⟨.some hstart, rfl⟩) ?_
  exact (alike_lengthArgument _).bind fun _ _ hn =>
    alike_pure ⟨.some hstart, congrArg some hn.symm⟩

theorem alike_loadPart (name : String) (ht : p.Pairs t t') {part part' : FilePart}
    (h : p.Parts part part') : p.Alike n (loadPart name t part) (loadPart name t' part') Eq := by
  unfold loadPart
  rw [h.offset, h.length]
  refine alike_session_bind fun s => ?_
  split
  · exact alike_pure rfl
  · next e _ => exact alike_raise _ (spans_loadFailure ht h e)

theorem alike_noteCutFile {part part' : FilePart} (h : p.Parts part part') (available : Nat) :
    p.Alike n (noteCutFile part available) (noteCutFile part' available) Eq := by
  unfold noteCutFile
  rw [h.length]
  split
  · exact alike_ite (alike_liftM (Action.unplaced_note _)) (alike_pure rfl)
  · exact alike_pure rfl

theorem alike_wholeFile (name : String) (ht : p.Pairs t t') (bytes : List UInt8) :
    p.Alike n (wholeFile name t bytes) (wholeFile name t' bytes) Eq := by
  unfold wholeFile
  refine alike_session_bind fun s => ?_
  split
  · exact alike_pure rfl
  · exact alike_pure rfl
  · exact alike_raise _ (.of_pairs ht)

theorem alike_fileObject : p.Alike n fileObject fileObject Eq := by
  unfold fileObject
  refine alike_fileName.bind fun ⟨name, t⟩ ⟨name', t'⟩ ⟨hname, ht⟩ => ?_
  obtain rfl : name = name' := hname
  refine alike_filePart.bind fun part part' hpart => ?_
  refine alike_closeArguments.bind fun _ _ _ => ?_
  refine (alike_loadPart name ht hpart).bind fun bytes _ heq => heq ▸ ?_
  refine (alike_noteCutFile hpart _).bind fun _ _ _ => ?_
  have hstart : part'.start.isSome = part.start.isSome := by
    rw [← Option.isSome_map (f := Prod.fst), hpart.offset, Option.isSome_map]
  rw [hstart]
  exact alike_ite (alike_pure rfl) (alike_wholeFile name ht bytes)

/-! ## Arrays -/

theorem alike_arrayElement (type : ElementType) (bytes : List UInt8) :
    p.Alike n (arrayElement type bytes) (arrayElement type bytes) Eq := by
  unfold arrayElement
  refine (alike_constantToken _).bind fun t t' ht => ?_
  rw [p.text_eq ht]
  refine (alike_lift (answers_located ht _)).bind fun more _ heq => heq ▸ ?_
  refine (alike_skip _).bind fun comma _ heq => heq ▸ alike_ite (alike_pure rfl) ?_
  refine (alike_skip _).bind fun close _ heq => heq ▸ alike_ite (alike_pure rfl) ?_
  exact alike_here.bind fun _ _ hsp => alike_raise _ hsp

theorem alike_arrayObject (type : ElementType) :
    p.Alike n (arrayObject type) (arrayObject type) Eq := by
  unfold arrayObject
  exact (alike_loop (alike_arrayElement type) []).bind fun bytes _ heq => heq ▸ alike_pure rfl

/-! ## Buffers and images -/

theorem alike_sizedBuffer : p.Alike n sizedBuffer sizedBuffer Eq := by
  unfold sizedBuffer
  refine alike_consume.bind fun t t' ht => ?_
  rw [p.text_eq ht]
  refine (alike_lift (answers_located ht _)).bind fun size _ heq => heq ▸ ?_
  refine alike_closeArguments.bind fun _ _ _ => ?_
  exact (alike_atSpan (Action.unplaced_drive _) (.of_pairs ht)).bind fun m _ heq =>
    heq ▸ alike_pure rfl

theorem alike_dataPart (size : Nat) : p.Alike n (dataPart size) (dataPart size) Eq := by
  unfold dataPart
  refine (alike_skip _).bind fun more _ heq => heq ▸ alike_ite (alike_pure rfl) ?_
  refine (alike_numberArgument _ _).bind fun ⟨start, t⟩ ⟨start', t'⟩ ⟨hstart, ht⟩ => ?_
  obtain rfl : start = start' := hstart
  refine alike_guard (.of_pairs ht) ?_
  refine (alike_skip _).bind fun more _ heq => heq ▸ alike_ite (alike_pure rfl) ?_
  refine (alike_lengthArgument _).bind fun requested _ heq => heq ▸ ?_
  exact alike_ite ((alike_liftM (Action.unplaced_note _)).bind fun _ _ _ => alike_pure rfl)
    (alike_pure rfl)

theorem alike_bufferOf (bytes : List UInt8) : p.Alike n (bufferOf bytes) (bufferOf bytes) Eq := by
  unfold bufferOf
  refine (alike_liftM (Action.unplaced_drive _)).bind fun m _ heq => heq ▸ alike_undoing _ ?_
  exact (alike_liftM (Action.unplaced_drive _)).bind fun _ _ _ => alike_pure rfl

theorem alike_keepInFlight (e : Entity) : p.Alike n (keepInFlight e) (keepInFlight e) Eq := by
  unfold keepInFlight
  refine (alike_liftM Action.unplaced_activeDriver).bind fun d _ heq => heq ▸ ?_
  exact alike_ite (alike_change _) (alike_pure rfl)

theorem alike_filledBuffer (ht : p.Pairs t t') (source : Entity) :
    p.Alike n (filledBuffer t source) (filledBuffer t' source) Eq := by
  unfold filledBuffer
  split
  · exact alike_raise _ (.of_pairs ht)
  · refine (alike_dataPart _).bind fun part _ heq => heq ▸ ?_
    refine alike_closeArguments.bind fun _ _ _ => ?_
    refine (alike_bufferOf _).bind fun m _ heq => heq ▸ ?_
    exact (alike_keepInFlight source).bind fun _ _ _ => alike_pure rfl

theorem alike_channelOrder : p.Alike n channelOrder channelOrder Eq := by
  unfold channelOrder
  refine alike_consume.bind fun t t' ht => ?_
  rw [p.text_eq ht]
  split
  · exact alike_pure rfl
  · exact alike_raise _ (.of_pairs ht)

theorem alike_channelType : p.Alike n channelType channelType Eq := by
  unfold channelType
  refine alike_consume.bind fun t t' ht => ?_
  rw [p.text_eq ht]
  split
  · exact alike_pure rfl
  · exact alike_raise _ (.of_pairs ht)
  · exact alike_raise _ (.of_pairs ht)

theorem alike_widthArgument : p.Alike n widthArgument widthArgument Eq := by
  unfold widthArgument
  refine (alike_numberArgument _ _).bind fun ⟨width, t⟩ ⟨width', t'⟩ ⟨hwidth, ht⟩ => ?_
  obtain rfl : width = width' := hwidth
  exact alike_guard (.of_pairs ht) (alike_pure rfl)

theorem alike_imageForm : p.Alike n imageForm imageForm Eq := by
  unfold imageForm
  refine alike_widthArgument.bind fun width _ heq => heq ▸ alike_comma.bind fun _ _ _ => ?_
  refine (alike_numberArgument _ _).bind fun ⟨height, _⟩ ⟨height', _⟩ ⟨hheight, _⟩ => ?_
  obtain rfl : height = height' := hheight
  refine alike_comma.bind fun _ _ _ => ?_
  refine alike_channelOrder.bind fun order _ heq => heq ▸ alike_comma.bind fun _ _ _ => ?_
  exact alike_channelType.bind fun type _ heq => heq ▸ alike_pure rfl

theorem alike_imageFromData (ht : p.Pairs t t') (source : Entity) :
    p.Alike n (imageFromData t source) (imageFromData t' source) Eq := by
  unfold imageFromData
  split
  · exact alike_raise _ (.of_pairs ht)
  · refine alike_imageForm.bind fun form _ heq => heq ▸ ?_
    exact alike_guard (.of_pairs ht) (alike_pure rfl)

theorem alike_imageFromImage (ht : p.Pairs t t') (source : Entity) :
    p.Alike n (imageFromImage t source) (imageFromImage t' source) Eq := by
  unfold imageFromImage
  split
  · exact alike_pure rfl
  · exact alike_raise _ (.of_pairs ht)

theorem alike_filledImage (ht : p.Pairs t t') (source : Entity) :
    p.Alike n (filledImage t source) (filledImage t' source) Eq := by
  unfold filledImage
  refine (alike_skip _).bind fun more _ heq => heq ▸ ?_
  extract_lets rest
  have hrest : ∀ form form', form = form' → p.Alike n (rest form) (rest form') Eq := by
    rintro form _ rfl
    refine alike_closeArguments.bind fun _ _ _ => ?_
    exact (alike_liftM (Action.unplaced_drive _)).bind fun m _ heq => heq ▸ alike_pure rfl
  exact alike_ite ((alike_imageFromData ht source).bind hrest)
    ((alike_imageFromImage ht source).bind hrest)

/-! ## Clones -/

theorem alike_copyMemory (m : Memory) : p.Alike n (copyMemory m) (copyMemory m) Eq := by
  unfold copyMemory
  split
  all_goals
    refine (alike_liftM (Action.unplaced_drive _)).bind fun copy _ heq => heq ▸ ?_
    refine alike_undoing _ ((alike_liftM (Action.unplaced_drive _)).bind fun _ _ _ => ?_)
    exact alike_pure rfl

theorem alike_clonedObject (ht : p.Pairs t t') (source : Entity) :
    p.Alike n (clonedObject t source) (clonedObject t' source) Eq := by
  unfold clonedObject
  refine alike_closeArguments.bind fun _ _ _ => ?_
  split
  · exact (alike_copyMemory _).bind fun copy _ heq => heq ▸ alike_pure rfl
  · exact (alike_liftM (Action.unplaced_drive _)).bind fun copy _ heq => heq ▸ alike_pure rfl
  · exact alike_raise _ (.of_pairs ht)

/-! ## Programs and kernels -/

theorem alike_buildOptions : p.Alike n buildOptions buildOptions Eq := by
  unfold buildOptions
  refine (alike_skip _).bind fun more _ heq => heq ▸ alike_ite (alike_pure rfl) ?_
  exact alike_consume.bind fun t t' ht => alike_lift (answers_unquoted ht)

theorem unplaced_build (program : Handle) (options : String) :
    Action.Unplaced (build program options) := by
  refine Action.unplaced_tryCatch (Action.unplaced_drive _) fun f hf => ?_
  extract_lets rest
  have hrest : ∀ u, Action.Unplaced (rest u) := fun _ => Action.unplaced_throw hf
  split
  · exact Action.unplaced_bind (Action.unplaced_printError _) hrest
  · exact hrest ()

theorem alike_builtProgram (program : Handle) (options : String) :
    p.Alike n (builtProgram program options) (builtProgram program options) Eq := by
  refine alike_undoing _ ?_
  exact (alike_liftM (unplaced_build program options)).bind fun _ _ _ => alike_pure rfl

theorem alike_programOfSource (source : String) :
    p.Alike n (programOfSource source) (programOfSource source) Eq := by
  unfold programOfSource
  refine alike_buildOptions.bind fun options _ heq => heq ▸ ?_
  refine alike_closeArguments.bind fun _ _ _ => ?_
  exact (alike_liftM (Action.unplaced_drive _)).bind fun program _ heq =>
    heq ▸ alike_builtProgram program options

theorem alike_quotedProgram : p.Alike n quotedProgram quotedProgram Eq := by
  unfold quotedProgram
  refine alike_consume.bind fun t t' ht => ?_
  exact (alike_lift (answers_unquoted ht)).bind fun source _ heq =>
    heq ▸ alike_programOfSource source

theorem alike_dataProgram (ht : p.Pairs t t') (source : Entity) :
    p.Alike n (dataProgram t source) (dataProgram t' source) Eq := by
  unfold dataProgram
  split
  · exact alike_raise _ (.of_pairs ht)
  · exact alike_programOfSource _

theorem alike_binaryProgram (ht : p.Pairs t t') (source : Entity) :
    p.Alike n (binaryProgram t source) (binaryProgram t' source) Eq := by
  unfold binaryProgram
  split
  · exact alike_raise _ (.of_pairs ht)
  · refine alike_buildOptions.bind fun options _ heq => heq ▸ ?_
    refine alike_closeArguments.bind fun _ _ _ => ?_
    exact (alike_atSpan (Action.unplaced_drive _) (.of_pairs ht)).bind fun program _ heq =>
      heq ▸ alike_builtProgram program options

theorem alike_kernelName : p.Alike n kernelName kernelName p.With := by
  unfold kernelName
  refine alike_consume.bind fun t t' ht => ?_
  have hname : p.Alike n (do let name ← lift t.wordOrText; return (name, t))
      (do let name ← lift t'.wordOrText; return (name, t')) p.With :=
    (alike_lift (answers_wordOrText ht)).bind fun _ _ heq => alike_pure ⟨heq, ht⟩
  rw [p.kind_eq ht]
  split
  · exact hname
  · exact hname
  · exact alike_raise _ (.of_pairs ht)

theorem alike_programKernel (ht : p.Pairs t t') (source : Entity) :
    p.Alike n (programKernel t source) (programKernel t' source) Eq := by
  unfold programKernel
  split
  · exact alike_raise _ (.of_pairs ht)
  · refine alike_comma.bind fun _ _ _ => ?_
    refine alike_kernelName.bind fun ⟨name, word⟩ ⟨name', word'⟩ ⟨hname, hword⟩ => ?_
    obtain rfl : name = name' := hname
    refine alike_closeArguments.bind fun _ _ _ => ?_
    exact (alike_atSpan (Action.unplaced_drive _) (.of_pairs hword)).bind fun kernel _ heq =>
      heq ▸ alike_pure rfl

/-! ## Expressions -/

theorem alike_derive (d : Derivation) (ht : p.Pairs t t') (source : Entity) :
    p.Alike n (derive d t source) (derive d t' source) Eq := by
  cases d
  · exact alike_clonedObject ht source
  · exact alike_filledBuffer ht source
  · exact alike_filledImage ht source
  · exact alike_dataProgram ht source
  · exact alike_binaryProgram ht source
  · exact alike_programKernel ht source

theorem alike_plain {d : Derivation} {kind : TokenKind} {object : Reading Object}
    (h : plain? d kind = some object) : p.Alike n object object Eq := by
  unfold plain? at h
  split at h
  · exact Option.some.inj h ▸ alike_sizedBuffer
  · exact Option.some.inj h ▸ alike_quotedProgram
  · cases h

section Operand

variable {operand : Reading Entity}

theorem alike_derivedObject (d : Derivation) (h : p.Alike n operand operand Eq) :
    p.Alike n (derivedObject d operand) (derivedObject d operand) Eq := by
  unfold derivedObject
  refine alike_current.bind fun first first' hfirst => ?_
  rw [p.kind_eq hfirst]
  split
  · next object ho => exact alike_plain ho
  · exact h.bind fun source _ heq => heq ▸ alike_holding source (alike_derive d hfirst source)

theorem alike_construct (k : Constructor) (ht : p.Pairs t t') (h : p.Alike n operand operand Eq) :
    p.Alike n (construct k t operand) (construct k t' operand) Eq := by
  unfold construct
  split
  · exact (alike_openArguments _).bind fun _ _ _ => alike_fileObject
  · exact (alike_openArguments _).bind fun _ _ _ => alike_arrayObject _
  · next d =>
    have hrest := (alike_openArguments (p := p) (Constructor.derived d).keyword).bind
      fun _ _ _ => alike_derivedObject d h
    exact alike_ite ((alike_requireDriver _ (.of_pairs ht)).bind fun _ _ _ => hrest) hrest

end Operand

theorem alike_closed (ht : p.Pairs t t') (e : Entity) :
    p.Alike n (closed t e) (closed t' e) Eq := by
  unfold closed
  refine (alike_skip _).bind fun close _ heq => heq ▸ alike_ite (alike_pure rfl) ?_
  exact (alike_change _).bind fun _ _ _ => alike_raise _ (.of_pairs ht)

/-- **Evaluation cannot tell the lines apart**, by induction on the bound: behind its first token it
goes on with fewer of them. -/
theorem alike_evaluate : p.Alike n evaluate evaluate Eq := by
  induction n using Nat.strongRecOn with
  | ind n ih =>
    rintro ⟨line, ts⟩ ⟨line', ts'⟩ s hc
    obtain ⟨rfl, rfl, hpending, hbound⟩ := hc
    cases hpending with
    | nil => exact ⟨.of_failure (.of_pairs p.finish), ⟨rfl, rfl, .nil, hbound⟩, rfl⟩
    | @cons t t' rest rest' ht hrest =>
      have hfewer : rest.length < n := hbound
      have hbehind : p.Cursors rest.length ⟨p.line, rest⟩ ⟨p.line', rest'⟩ :=
        ⟨rfl, rfl, hrest, Nat.le_refl _⟩
      have hexpression := ih _ hfewer
      by_cases hparen : t.kind = .openParen
      · rw [run_evaluate_paren hparen, run_evaluate_paren ((p.kind_eq ht).trans hparen)]
        have hinside : p.Alike rest.length (evaluate >>= closed t) (evaluate >>= closed t') Eq :=
          hexpression.bind fun e _ heq => heq ▸ alike_closed ht e
        exact (hinside _ _ s hbehind).mono (Nat.le_of_lt hfewer)
      by_cases hword : t.kind = .word
      · have hword' := (p.kind_eq ht).trans hword
        cases he : s.env.lookup t.text with
        | some e =>
          rw [run_evaluate_bound hword he, run_evaluate_bound hword' (by rw [p.text_eq ht, he])]
          exact ⟨.ok rfl, hbehind.mono (Nat.le_of_lt hfewer), rfl⟩
        | none =>
          have he' : s.env.lookup t'.text = none := by rw [p.text_eq ht, he]
          cases hk : Constructor.ofKeyword? t.text with
          | none =>
            rw [run_evaluate_undefined hword he hk,
              run_evaluate_undefined hword' he' (by rw [p.text_eq ht, hk]), p.text_eq ht]
            exact ⟨.of_failure (.of_pairs ht), hbehind.mono (Nat.le_of_lt hfewer), rfl⟩
          | some k =>
            rw [run_evaluate_constructor hword he hk,
              run_evaluate_constructor hword' he' (by rw [p.text_eq ht, hk])]
            have hmade : p.Alike rest.length
                (construct k t evaluate >>= fun o => liftM (Action.enter o))
                (construct k t' evaluate >>= fun o => liftM (Action.enter o)) Eq :=
              (alike_construct k ht hexpression).bind fun o _ heq =>
                heq ▸ alike_liftM (Action.unplaced_enter o)
            exact (hmade _ _ s hbehind).mono (Nat.le_of_lt hfewer)
      · have hall : p.Cursors n ⟨p.line, t :: rest⟩ ⟨p.line', t' :: rest'⟩ :=
          ⟨rfl, rfl, .cons ht hrest, hbound⟩
        rw [run_evaluate_other hparen hword, run_evaluate_other (by rwa [p.kind_eq ht])
          (by rwa [p.kind_eq ht]), p.kind_eq ht]
        refine ⟨.error ?_, hall, rfl⟩
        split
        · exact failures_invalidFailure ht
        · exact .atSpan _ (.of_pairs ht)

end Pairing

end DriverBench
