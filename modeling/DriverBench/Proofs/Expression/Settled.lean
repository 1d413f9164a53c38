import DriverBench.Proofs.Expression.Recursion
import DriverBench.Proofs.Reading.Settled
/-!
# Expressions are settled by what they take

Whatever an expression begins with, it ends with a token that it must have: the name itself, or a
closing parenthesis. So what it denotes is settled by the tokens that it takes
(`closes_evaluate`), however the line goes on. Every reading in front of that token looks at no more
than one token behind those that it has taken.
-/

namespace DriverBench

open Device Files Number Simulator

namespace Reading

variable {n : Nat}

/-! ## Files -/

theorem looks_fileName : Looks n fileName := by
  unfold fileName
  refine looks_consume.bind fun t => ?_
  have hname : Looks n (do let name ← lift t.wordOrText; return (name, t)) :=
    (still_lift _).looks.bind fun name => (still_pure _).looks
  split
  · exact hname
  · exact hname
  · exact hname
  · exact settled_raise _ _

theorem closes_lengthArgument (type : IntegerType) : Closes n (lengthArgument type) := by
  unfold lengthArgument
  exact (closes_numberArgument type _).bind_still fun _ => settled_guard (still_pure _)

theorem looks_filePart : Looks n filePart := by
  unfold filePart
  refine (looks_skip _).bind fun more => settled_ite (still_pure _).looks ?_
  refine (closes_numberArgument _ _).looks.bind fun start => ?_
  refine (looks_skip _).bind fun more => settled_ite (still_pure _).looks ?_
  exact (closes_lengthArgument _).looks.bind fun length => (still_pure _).looks

theorem still_loadPart (name : String) (nameToken : Token) (part : FilePart) :
    Still n (loadPart name nameToken part) := by
  unfold loadPart
  refine still_session.bind fun s => ?_
  split
  · exact still_pure _
  · exact settled_raise _ _

theorem still_noteCutFile (part : FilePart) (available : Nat) :
    Still n (noteCutFile part available) := by
  unfold noteCutFile
  split
  · exact settled_ite (still_liftM _) (still_pure _)
  · exact still_pure _

theorem still_wholeFile (name : String) (nameToken : Token) (bytes : List UInt8) :
    Still n (wholeFile name nameToken bytes) := by
  unfold wholeFile
  refine still_session.bind fun s => ?_
  split
  · exact still_pure _
  · exact still_pure _
  · exact settled_raise _ _

theorem closes_fileObject : Closes n fileObject := by
  unfold fileObject
  refine looks_fileName.bind_closes fun name => looks_filePart.bind_closes fun part => ?_
  refine closes_closeArguments.bind_still fun _ => (still_loadPart _ _ part).bind fun bytes => ?_
  refine (still_noteCutFile part _).bind fun _ => ?_
  exact settled_ite (still_pure _) (still_wholeFile _ _ _)

/-! ## Arrays -/

theorem closes_arrayElement (type : ElementType) (bytes : List UInt8) :
    Closes n (arrayElement type bytes) := by
  unfold arrayElement
  refine (closes_constantToken _).looks.bind_closes fun t => (still_lift _).bind fun more => ?_
  refine closes_skip_bind (by decide) (still_pure _) ?_
  refine closes_skip_bind (by decide) (still_pure _) ?_
  exact looks_here.bind_closes fun _ => settled_raise _ _

theorem closes_arrayObject (type : ElementType) : Closes n (arrayObject type) := by
  unfold arrayObject
  exact (closes_loop (closes_arrayElement type) []).bind_still fun bytes => still_pure _

/-! ## Buffers and images -/

theorem closes_sizedBuffer : Closes n sizedBuffer := by
  unfold sizedBuffer
  refine looks_consume.bind_closes fun t => (still_lift _).bind fun size => ?_
  exact closes_closeArguments.bind_still fun _ => (still_liftM _).bind fun m => still_pure _

theorem looks_dataPart (size : Nat) : Looks n (dataPart size) := by
  unfold dataPart
  refine (looks_skip _).bind fun more => settled_ite (still_pure _).looks ?_
  refine (closes_numberArgument _ _).looks.bind fun start => settled_guard ?_
  refine (looks_skip _).bind fun more => settled_ite (still_pure _).looks ?_
  refine (closes_lengthArgument _).looks.bind fun requested => settled_ite ?_ (still_pure _).looks
  exact (still_liftM _).looks.bind fun _ => (still_pure _).looks

theorem still_bufferOf (bytes : List UInt8) : Still n (bufferOf bytes) := by
  unfold bufferOf
  refine (still_liftM _).bind fun m => settled_undoing _ ?_
  exact (still_liftM _).bind fun _ => still_pure _

theorem still_keepInFlight (e : Entity) : Still n (keepInFlight e) := by
  unfold keepInFlight
  exact (still_liftM _).bind fun d => settled_ite (still_change _) (still_pure _)

theorem closes_filledBuffer (operand : Token) (source : Entity) :
    Closes n (filledBuffer operand source) := by
  unfold filledBuffer
  split
  · exact settled_raise _ _
  · refine (looks_dataPart _).bind_closes fun part => closes_closeArguments.bind_still fun _ => ?_
    exact (still_bufferOf _).bind fun m => (still_keepInFlight source).bind fun _ => still_pure _

theorem looks_channelOrder : Looks n channelOrder := by
  unfold channelOrder
  refine looks_consume.bind fun t => ?_
  split
  · exact (still_pure _).looks
  · exact settled_raise _ _

theorem looks_channelType : Looks n channelType := by
  unfold channelType
  refine looks_consume.bind fun t => ?_
  split
  · exact (still_pure _).looks
  · exact settled_raise _ _
  · exact settled_raise _ _

theorem looks_imageForm : Looks n imageForm := by
  have hwidth : Closes n widthArgument := by
    unfold widthArgument
    exact (closes_numberArgument _ _).bind_still fun _ => settled_guard (still_pure _)
  unfold imageForm
  refine hwidth.looks.bind fun width => closes_comma.looks.bind fun _ => ?_
  refine (closes_numberArgument _ _).looks.bind fun height => closes_comma.looks.bind fun _ => ?_
  refine looks_channelOrder.bind fun order => closes_comma.looks.bind fun _ => ?_
  exact looks_channelType.bind fun type => (still_pure _).looks

theorem looks_imageFromData (operand : Token) (source : Entity) :
    Looks n (imageFromData operand source) := by
  unfold imageFromData
  split
  · exact settled_raise _ _
  · exact looks_imageForm.bind fun form => settled_guard (still_pure _).looks

theorem still_imageFromImage (operand : Token) (source : Entity) :
    Still n (imageFromImage operand source) := by
  unfold imageFromImage
  split
  · exact still_pure _
  · exact settled_raise _ _

theorem closes_filledImage (operand : Token) (source : Entity) :
    Closes n (filledImage operand source) := by
  unfold filledImage
  refine (looks_skip _).bind_closes fun more => ?_
  extract_lets rest
  have hrest : ∀ form, Closes n (rest form) := fun form =>
    closes_closeArguments.bind_still fun _ => (still_liftM _).bind fun m => still_pure _
  exact settled_ite ((looks_imageFromData operand source).bind_closes hrest)
    ((still_imageFromImage operand source).bind hrest)

/-! ## Clones -/

theorem still_copyMemory (m : Memory) : Still n (copyMemory m) := by
  unfold copyMemory
  split
  all_goals
    refine (still_liftM _).bind fun copy => settled_undoing _ ?_
    exact (still_liftM _).bind fun _ => still_pure _

theorem closes_clonedObject (operand : Token) (source : Entity) :
    Closes n (clonedObject operand source) := by
  unfold clonedObject
  refine closes_closeArguments.bind_still fun _ => ?_
  split
  · exact (still_copyMemory _).bind fun copy => still_pure _
  · exact (still_liftM _).bind fun copy => still_pure _
  · exact settled_raise _ _

/-! ## Programs and kernels -/

theorem looks_buildOptions : Looks n buildOptions := by
  unfold buildOptions
  refine (looks_skip _).bind fun more => settled_ite (still_pure _).looks ?_
  exact looks_consume.bind fun t => (still_lift _).looks

theorem still_builtProgram (program : Handle) (options : String) :
    Still n (builtProgram program options) :=
  settled_undoing _ ((still_liftM _).bind fun _ => still_pure _)

theorem closes_programOfSource (source : String) : Closes n (programOfSource source) := by
  unfold programOfSource
  refine looks_buildOptions.bind_closes fun options => closes_closeArguments.bind_still fun _ => ?_
  exact (still_liftM _).bind fun program => still_builtProgram program options

theorem closes_quotedProgram : Closes n quotedProgram := by
  unfold quotedProgram
  refine looks_consume.bind_closes fun t => (still_lift _).bind fun source => ?_
  exact closes_programOfSource source

theorem closes_dataProgram (operand : Token) (source : Entity) :
    Closes n (dataProgram operand source) := by
  unfold dataProgram
  split
  · exact settled_raise _ _
  · exact closes_programOfSource _

theorem closes_binaryProgram (operand : Token) (source : Entity) :
    Closes n (binaryProgram operand source) := by
  unfold binaryProgram
  split
  · exact settled_raise _ _
  · refine looks_buildOptions.bind_closes fun options => ?_
    refine closes_closeArguments.bind_still fun _ => (still_liftM _).bind fun program => ?_
    exact still_builtProgram program options

theorem looks_kernelName : Looks n kernelName := by
  unfold kernelName
  refine looks_consume.bind fun t => ?_
  have hname : Looks n (do let name ← lift t.wordOrText; return (name, t)) :=
    (still_lift _).looks.bind fun name => (still_pure _).looks
  split
  · exact hname
  · exact hname
  · exact settled_raise _ _

theorem closes_programKernel (operand : Token) (source : Entity) :
    Closes n (programKernel operand source) := by
  unfold programKernel
  split
  · exact settled_raise _ _
  · refine closes_comma.looks.bind_closes fun _ => looks_kernelName.bind_closes fun name => ?_
    exact closes_closeArguments.bind_still fun _ => (still_liftM _).bind fun kernel => still_pure _

/-! ## Expressions -/

theorem closes_derive (d : Derivation) (operand : Token) (source : Entity) :
    Closes n (derive d operand source) := by
  cases d
  · exact closes_clonedObject operand source
  · exact closes_filledBuffer operand source
  · exact closes_filledImage operand source
  · exact closes_dataProgram operand source
  · exact closes_binaryProgram operand source
  · exact closes_programKernel operand source

theorem closes_plain {d : Derivation} {kind : TokenKind} {object : Reading Object}
    (h : plain? d kind = some object) : Closes n object := by
  unfold plain? at h
  split at h
  · exact Option.some.inj h ▸ closes_sizedBuffer
  · exact Option.some.inj h ▸ closes_quotedProgram
  · cases h

theorem closes_construct (k : Constructor) (word : Token) {operand : Reading Entity}
    (h : Closes n operand) : Closes n (construct k word operand) := by
  have hderived : ∀ d, Closes n (derivedObject d operand) := by
    intro d
    unfold derivedObject
    refine looks_current.bind_closes fun first => ?_
    split
    · next object ho => exact closes_plain ho
    · exact h.looks.bind_closes fun source =>
        settled_holding source (closes_derive d first source)
  unfold construct
  split
  · exact (closes_openArguments _).looks.bind_closes fun _ => closes_fileObject
  · exact (closes_openArguments _).looks.bind_closes fun _ => closes_arrayObject _
  · next d =>
    have hrest := (closes_openArguments (n := n) (Constructor.derived d).keyword).looks.bind_closes
      fun _ => hderived d
    exact settled_ite ((still_requireDriver _ _).bind fun _ => hrest) hrest

theorem closes_closed (opening : Token) (e : Entity) : Closes n (closed opening e) := by
  unfold closed
  refine closes_skip_bind (by decide) (still_pure _) ?_
  exact (still_change _).bind fun _ => settled_raise _ _

/-- A reading that does on a line what another one does behind the first token. -/
theorem closes_of_behind {t : Token} {rest : List Token} {line : String} {s : Session}
    {r : Reading Entity} {e : Entity} {d : Cursor} {u : Session}
    (hrun : ∀ line rest, evaluate.run ⟨line, t :: rest⟩ s = r.run ⟨line, rest⟩ s)
    (h : Settled rest.length 0 0 r) (hgives : Gives evaluate ⟨line, t :: rest⟩ s e d u) :
    d.line = line ∧ ∃ taken, t :: rest = taken ++ d.pending ∧ 1 ≤ taken.length ∧
      ∀ v more later line', d.pending = v ++ more → 0 ≤ v.length →
        Gives evaluate ⟨line', taken ++ (v ++ later)⟩ s e ⟨line', v ++ later⟩ u := by
  unfold Gives at hgives
  rw [hrun] at hgives
  obtain ⟨hline, taken, hpending, -, hsame⟩ := h _ _ _ _ _ (Nat.le_refl _) hgives
  obtain rfl : rest = taken ++ d.pending := hpending
  refine ⟨hline, t :: taken, rfl, by simp, fun v more later line' hv hvk => ?_⟩
  unfold Gives
  rw [List.cons_append, hrun]
  exact hsame v more later line' hv hvk

/-- **What an expression denotes is settled by the tokens that it takes.** -/
theorem closes_evaluate : Closes n evaluate := by
  induction n using Nat.strongRecOn with
  | ind n ih =>
    rintro ⟨line, ts⟩ s e d u hn hgives
    cases ts with
    | nil => cases hgives
    | cons t rest =>
      have hexpression : Closes rest.length evaluate := ih _ hn
      by_cases hparen : t.kind = .openParen
      · have hinside : Closes rest.length (evaluate >>= closed t) :=
          hexpression.looks.bind_closes fun e => closes_closed t e
        exact closes_of_behind (fun _ _ => run_evaluate_paren hparen)
          (hinside.mono (Nat.zero_le _) (Nat.le_refl 0)) hgives
      by_cases hword : t.kind = .word
      · cases he : s.env.lookup t.text with
        | some bound =>
          exact closes_of_behind (r := pure bound) (fun _ _ => run_evaluate_bound hword he)
            (still_pure bound) hgives
        | none =>
          cases hk : Constructor.ofKeyword? t.text with
          | none =>
            unfold Gives at hgives
            rw [run_evaluate_undefined hword he hk] at hgives
            cases hgives
          | some k =>
            have hmade : Closes rest.length
                (construct k t evaluate >>= fun o => liftM (Action.enter o)) :=
              (closes_construct k t hexpression).bind_still fun o => still_liftM _
            exact closes_of_behind (fun _ _ => run_evaluate_constructor hword he hk)
              (hmade.mono (Nat.zero_le _) (Nat.le_refl 0)) hgives
      · unfold Gives at hgives
        rw [run_evaluate_other hparen hword] at hgives
        cases hgives

end Reading

end DriverBench
