import DriverBench.Proofs.Expression.Place
import DriverBench.Script
/-!
# Where the failures of a command point

Every failure of a command points into its line, whatever the command. A script runs lines of its
own, and what fails in one of them is reported there: the failure of the script as a whole names no
place, and becomes one of the path that the script was named by.
-/

namespace DriverBench

open Device Number Simulator

variable {line : String} {α : Type}

/-! ## Arguments of commands -/

namespace Reading

theorem points_choice (what : String) (name : α → String) (all : List α) :
    Points line (choice what name all) fun _ => True := by
  unfold choice
  refine points_bind points_consume fun t ht => ?_
  split
  · exact points_pure trivial
  · exact points_raise _ ht.span
  · exact points_raise _ ht.span

theorem points_warnTrailing (command : Command) :
    Points line (warnTrailing command) fun _ => True := by
  unfold warnTrailing
  refine points_bind points_cursor fun c _ => points_ite (fun _ => ?_) fun _ => points_pure trivial
  exact points_liftM (Action.points_warn _)

theorem points_noteCleared (count : Nat) : Points line (noteCleared count) fun _ => True := by
  unfold noteCleared
  refine points_ite (fun _ => ?_) fun _ => points_pure trivial
  exact points_liftM (Action.points_note _)

theorem points_refuseInvalid : Points line refuseInvalid fun _ => True := by
  unfold refuseInvalid
  refine points_bind points_current fun t ht => ?_
  exact points_ite (fun _ => points_throw ht.points_invalidFailure) fun _ => points_pure trivial

/-- A path is given with its place: that of the quoted text, or the rest of the line. -/
theorem points_pathArgument : Points line pathArgument fun p => p.2.In line := by
  unfold pathArgument
  refine points_bind points_current fun t ht => ?_
  split
  · refine points_bind points_advance fun _ _ => ?_
    exact points_bind (points_lift fun f hf => ht.points_unquoted hf) fun path _ =>
      points_pure ht.span
  · exact points_raise _ ht.span
  · exact points_throw ht.points_invalidFailure
  · refine points_bind points_cursor fun c hc => ?_
    exact points_bind points_skipValid fun _ _ => points_pure hc.remainingSpan

theorem takes_workDimension (sizes : List Nat) :
    Takes line (workDimension sizes) fun _ => True := by
  unfold workDimension
  refine takes_bind (takes_sizeArgument _) fun size _ => ?_
  refine points_bind (points_skip _) fun more _ => ?_
  exact points_ite (fun _ => points_pure trivial) fun _ => points_pure trivial

theorem unrolls_workDimension : Unrolls line workDimension :=
  unrolls_of_advances fun sizes => (takes_workDimension sizes).advances

theorem points_workSize : Points line workSize fun _ => True := by
  unfold workSize
  refine points_bind (points_require _ (by simp)) fun opening hopening => ?_
  refine points_bind (points_loop (I := fun _ => True) (fun sizes _ => ?_) trivial)
    fun sizes _ => ?_
  · exact (takes_workDimension sizes).points
  · refine points_bind (points_require _ (by simp)) fun closing hclosing => ?_
    exact points_guard (hopening.span.cover hclosing.span) (points_pure trivial)

theorem takes_evaluateKept : Takes line evaluateKept fun _ => True := by
  unfold evaluateKept
  refine takes_bind takes_evaluate fun e _ => ?_
  exact points_bind (points_liftM (Action.points_keep e)) fun _ _ => points_pure trivial

theorem points_kernelOperand : Points line kernelOperand fun p => p.1.In line := by
  unfold kernelOperand
  refine points_bind points_current fun t ht => points_bind takes_evaluateKept.points fun e _ => ?_
  split
  · exact points_pure ht
  · exact points_raise _ ht.span

theorem takes_kernelValue : Takes line kernelValue fun p => p.1.In line := by
  unfold kernelValue
  refine takes_of_points_bind points_current fun t ht => takes_guard ht.span ?_
  exact takes_bind takes_evaluateKept fun e _ => points_pure ht

end Reading

namespace Statement

open Reading

/-! ## Bindings and options -/

theorem points_target : Points line target fun _ => True := by
  unfold target
  refine points_bind points_consume fun t ht => points_guard ht.span ?_
  exact points_bind points_session fun s _ => points_guard ht.span (points_pure trivial)

theorem points_bindName (name : String) (e : Entity) :
    Points line (bindName name e) fun _ => True := by
  unfold bindName
  refine points_bind points_session fun s _ => ?_
  split
  · exact points_change _
  · exact points_liftM (Action.points_raise (by simp [Fault.kind]))

theorem points_assignment : Points line assignment fun _ => True := by
  unfold assignment
  refine points_bind points_target fun name _ => points_bind points_advance fun _ _ => ?_
  refine points_bind takes_evaluate.points fun e _ => points_bind points_current fun t _ => ?_
  extract_lets rest
  have hrest : ∀ u, Points line (rest u) fun _ => True := fun _ =>
    points_bind (points_bindName name e) fun _ _ => points_pure trivial
  refine points_ite (fun _ => ?_) fun _ => hrest ()
  refine points_bind (points_change _) fun _ _ => points_bind points_cursor fun c hc => ?_
  exact points_bind (points_raise (Q := fun _ => True) _ hc.remainingSpan) fun u _ => hrest u

theorem points_list : Points line list fun _ => True := by
  unfold list
  refine points_bind (points_warnTrailing _) fun _ _ => points_bind points_session fun s _ => ?_
  refine points_ite (fun _ => ?_) fun _ => ?_
  · exact points_bind (points_liftM (Action.points_say _)) fun _ _ => points_pure trivial
  · exact points_bind (points_liftM (Action.points_print _)) fun _ _ => points_pure trivial

theorem points_truthValue : Points line truthValue fun _ => True := by
  unfold truthValue
  refine points_bind points_current fun t ht => points_bind points_hasMore fun more _ => ?_
  refine points_guard ht.span (points_bind points_advance fun _ _ => ?_)
  exact points_lift fun f hf => ht.points_located hf

theorem points_settings : Points line settings fun _ => True := by
  unfold settings changeSetting showSettings
  refine points_bind points_hasMore fun more _ => points_ite (fun _ => ?_) fun _ => ?_
  · refine points_bind (points_choice _ _ _) fun setting _ => ?_
    refine points_bind points_truthValue fun value _ => ?_
    refine points_bind (points_warnTrailing _) fun _ _ => ?_
    exact points_bind (points_change _) fun _ _ => points_pure trivial
  · refine points_bind points_session fun s _ => ?_
    exact points_bind (points_liftM (Action.points_print _)) fun _ _ => points_pure trivial

/-- A loop over names ends where no valid token is ahead; the name in front of that is taken. -/
theorem advances_releasedName (names : List String) :
    Advances line (releasedName names) fun _ => True := by
  intro c s hc
  have hmore : hasMore.run c s = ((.ok c.hasMore, c), s) := rfl
  unfold releasedName
  rw [run_bind, hmore]
  dsimp only
  by_cases h : c.hasMore = true
  · rw [if_neg (by simpa using h)]
    refine advances_consume hc (Cursor.kind_ne_finish_of_hasMore h) (fun t ht => ?_) s
    refine points_ite (fun _ => points_pure trivial) fun _ => points_guard ht.span ?_
    exact points_bind points_session fun s _ => points_guard ht.span (points_pure trivial)
  · rw [if_pos (by simpa using h)]
    exact ⟨trivial, .refl c⟩

theorem unrolls_releasedName : Unrolls line releasedName :=
  unrolls_of_advances advances_releasedName

theorem points_release : Points line release fun _ => True := by
  unfold release
  refine points_bind points_hasMore fun more _ => ?_
  extract_lets rest
  have hrest : ∀ u, Points line (rest u) fun _ => True := fun _ => by
    refine points_bind (points_loop (I := fun _ => True) (fun names _ => ?_) trivial) fun names _ =>
      ?_
    · exact (advances_releasedName names).points
    · refine points_bind points_refuseInvalid fun _ _ => points_bind points_session fun s _ => ?_
      split
      · exact points_liftM (Action.points_raise (by simp [Fault.kind]))
      · refine points_bind (points_change _) fun _ _ => ?_
        exact points_bind (points_liftM (Action.points_note _)) fun _ _ => points_pure trivial
  refine points_ite (fun _ => ?_) fun _ => hrest ()
  refine points_bind points_here fun sp hsp => ?_
  exact points_bind (points_raise (Q := fun _ => True) _ hsp) fun u _ => hrest u

/-! ## The driver -/

theorem points_libraryArgument :
    Points line libraryArgument fun p => ∀ t ∈ p.2, t.In line := by
  unfold libraryArgument
  refine points_bind points_hasMore fun more _ => points_ite (fun _ => points_pure (by simp)) ?_
  refine fun _ => points_bind points_consume fun t ht => ?_
  exact points_bind (points_lift fun f hf => ht.points_wordOrText hf) fun name _ =>
    points_pure fun u hu => Option.mem_some.1 hu ▸ ht

theorem points_libraryFailure (e : LibraryError) {t? : Option Token}
    (h : ∀ t ∈ t?, t.In line) : (libraryFailure e t?).Points line := by
  cases t? with
  | none => exact Failure.points_of_fault (by simp [Fault.kind])
  | some t => exact Fault.points_atSpan _ (h t rfl).span

theorem points_load : Points line load fun _ => True := by
  unfold load
  refine points_bind points_libraryArgument fun ⟨name, t?⟩ ht => ?_
  refine points_bind (points_warnTrailing _) fun _ _ => ?_
  dsimp only
  split
  · exact points_throw (points_libraryFailure _ ht)
  · refine points_bind points_session fun s _ => points_bind (points_change _) fun _ _ => ?_
    refine points_bind (points_liftM (Action.points_note _)) fun _ _ => ?_
    exact points_bind (points_noteCleared _) fun _ _ => points_pure trivial

theorem points_select : Points line select fun _ => True := by
  unfold select changeSelection showSelection
  refine points_bind points_hasMore fun more _ => points_ite (fun _ => ?_) fun _ => ?_
  · refine points_bind (points_choice _ _ _) fun target _ => ?_
    refine points_bind (points_sizeArgument _) fun ⟨index, t⟩ ht => ?_
    refine points_bind (points_warnTrailing _) fun _ _ => ?_
    refine points_bind (points_liftM Action.points_activeDriver) fun _ _ => ?_
    refine points_bind (points_driveAt _ ht) fun _ _ => ?_
    refine points_bind points_session fun s _ => points_bind (points_change _) fun _ _ => ?_
    refine points_bind (points_liftM (Action.points_note _)) fun _ _ => ?_
    exact points_bind (points_noteCleared _) fun _ _ => points_pure trivial
  · refine points_bind (points_liftM Action.points_activeDriver) fun d _ => ?_
    refine points_bind (points_liftM (Action.points_say _)) fun _ _ => ?_
    exact points_bind (points_liftM (Action.points_say _)) fun _ _ => points_pure trivial

theorem points_info : Points line info fun _ => True := by
  unfold info infoTopics
  refine points_bind (Q := fun _ => True) ?_ fun topics _ => ?_
  · refine points_bind points_hasMore fun more _ => points_ite (fun _ => points_pure trivial) ?_
    exact fun _ => points_bind (points_choice _ _ _) fun topic _ => points_pure trivial
  · refine points_bind (points_warnTrailing _) fun _ _ => ?_
    refine points_bind (points_liftM Action.points_activeDriver) fun d _ => ?_
    exact points_bind (points_liftM (Action.points_print _)) fun _ _ => points_pure trivial

theorem points_wait : Points line wait fun _ => True := by
  unfold wait
  refine points_bind (points_warnTrailing _) fun _ _ => points_bind (points_drive _) fun _ _ => ?_
  exact points_bind (points_change _) fun _ _ => points_pure trivial

theorem points_flush : Points line flush fun _ => True := by
  unfold flush
  refine points_bind (points_warnTrailing _) fun _ _ => ?_
  exact points_bind (points_drive _) fun _ _ => points_pure trivial

/-! ## Saving -/

theorem points_imageFile (path : String) (format : ImageFormat) (desc : ImageDesc)
    (bytes : List UInt8) : Action.Points line (imageFile path format desc bytes) := by
  unfold imageFile
  refine Action.points_bind Action.points_get fun s => ?_
  split
  · exact Action.points_raise (by simp [Fault.kind])
  · exact Action.points_pure _
  · exact Action.points_pure _

theorem points_fileBytes (path : String) (o : Object) :
    Action.Points line (fileBytes path o) := by
  cases o with
  | data d => exact Action.points_pure _
  | image i => exact points_imageFile _ _ _ _
  | program h => exact Action.points_drive _
  | kernel h name => exact Action.points_raise (by simp [Fault.kind])
  | memory m =>
    change Action.Points line (memoryFile path m)
    unfold memoryFile
    split
    · exact Action.points_raise (by simp [Fault.kind])
    · split
      · exact Action.points_bind (Action.points_drive _) fun bytes => points_imageFile _ _ _ _
      · exact Action.points_drive _

theorem points_writeFile (path : String) (bytes : List UInt8) :
    Action.Points line (writeFile path bytes) := by
  unfold writeFile
  refine Action.points_bind Action.points_get fun s => ?_
  split
  · exact Action.points_set _
  · exact Action.points_raise (by simp [Fault.kind])

/-- What cannot be saved is blamed on the object, and a file that cannot be written on the path. -/
theorem points_save : Points line save fun _ => True := by
  unfold save
  refine points_bind points_current fun t ht => points_bind takes_evaluateKept.points fun e _ => ?_
  refine points_bind points_pathArgument fun ⟨path, sp⟩ hsp => ?_
  refine points_bind (points_warnTrailing _) fun _ _ => ?_
  refine points_bind (points_liftM (Action.points_atSpan (points_fileBytes path _) ht.span))
    fun bytes _ => ?_
  refine points_bind (points_liftM (Action.points_atSpan (points_writeFile path bytes) hsp))
    fun _ _ => ?_
  exact points_bind (points_liftM (Action.points_note _)) fun _ _ => points_pure trivial

/-! ## Launches -/

theorem points_localSize (globalSize : List Nat) :
    Points line (localSize globalSize) fun _ => True := by
  unfold localSize
  refine points_bind points_current fun t ht => points_bind points_workSize fun sizes _ => ?_
  exact points_guard ht.span (points_pure trivial)

/-- Values with tokens of the line. -/
def ValuesIn (line : String) (values : List (Token × Entity)) : Prop :=
  ∀ p ∈ values, p.1.In line

theorem ValuesIn.append {values : List (Token × Entity)} (h : ValuesIn line values)
    {p : Token × Entity} (hp : p.1.In line) : ValuesIn line (values ++ [p]) := by
  intro q hq
  rcases List.mem_append.1 hq with hq | hq
  · exact h q hq
  · exact List.mem_singleton.1 hq ▸ hp

/-- An item of a launch starts with a comma, and what it adds is a local size, or a value with a
token of the line. -/
theorem advances_launchItem (globalSize : List Nat) {found : LaunchRest} {I : LaunchRest → Prop}
    (h : I found) (hsize : ∀ sizes, I { found with localSize := some sizes })
    (hvalue : ∀ p : Token × Entity, p.1.In line → I { found with values := found.values ++ [p] }) :
    Advances line (launchItem globalSize found) I := by
  unfold launchItem
  refine advances_bind (points_skip _) fun closing _ => advances_ite (advances_done h) ?_
  refine Takes.advances (I := I) (takes_bind (takes_require _ (by simp) (by simp)) fun _ _ => ?_)
  have hahead : Points line (localSizeAhead found) fun _ => True :=
    points_bind points_cursor fun c _ => points_pure trivial
  refine points_bind hahead fun ahead _ => points_ite (fun _ => ?_) fun _ => ?_
  · exact points_bind (points_localSize globalSize) fun sizes _ => points_pure (hsize sizes)
  · exact points_bind takes_kernelValue.points fun p hp => points_pure (hvalue p hp)

theorem unrolls_launchItem (globalSize : List Nat) : Unrolls line (launchItem globalSize) :=
  unrolls_of_advances fun _ => advances_launchItem globalSize trivial (fun _ => trivial)
    fun _ _ => trivial

/-- An argument that the kernel refuses is blamed on the token of its value. -/
theorem points_setArguments (kernel : Handle) (index : Nat) (values : List (Token × Entity))
    (h : ValuesIn line values) : Action.Points line (setArguments kernel index values) := by
  induction values generalizing index with
  | nil => exact Action.points_pure _
  | cons p rest ih =>
    obtain ⟨t, e⟩ := p
    have ht : t.In line := h (t, e) List.mem_cons_self
    unfold setArguments
    split
    · exact Action.points_throw (Fault.points_atSpan _ ht.span)
    · refine Action.points_bind (Action.points_atSpan (Action.points_drive _) ht.span) fun _ => ?_
      exact ih (index + 1) fun q hq => h q (List.mem_cons_of_mem _ hq)

theorem points_awaitLaunch (values : List (Token × Entity)) :
    Points line (awaitLaunch values) fun _ => True := by
  unfold awaitLaunch
  refine points_bind (points_liftM Action.points_activeDriver) fun d _ => ?_
  exact points_ite (fun _ => points_drive _) fun _ => points_change _

theorem points_prepareLaunch : Points line prepareLaunch fun plan => plan.token.In line := by
  unfold prepareLaunch
  refine points_bind points_kernelOperand fun ⟨token, kernel⟩ htoken => ?_
  refine points_bind (points_require _ (by simp)) fun _ _ => ?_
  refine points_bind points_workSize fun globalSize _ => ?_
  let I : LaunchRest → Prop := fun found => ValuesIn line found.values
  have hitem : ∀ found, I found → Points line (launchItem globalSize found) fun st => I st.value :=
    fun found h => (advances_launchItem globalSize h (fun _ => h) fun p hp => h.append hp).points
  refine points_bind (points_loop hitem fun _ hp => nomatch hp) fun rest hrest => ?_
  refine points_bind (points_warnTrailing _) fun _ _ => ?_
  refine points_bind (points_liftM Action.points_activeDriver) fun _ _ => ?_
  exact points_bind (points_liftM (points_setArguments kernel 0 _ hrest)) fun _ _ =>
    points_pure htoken

theorem points_run : Points line run fun _ => True := by
  unfold run
  refine points_bind points_prepareLaunch fun plan hplan => ?_
  refine points_bind (points_driveAt _ hplan) fun _ _ => ?_
  exact points_bind (points_awaitLaunch _) fun _ _ => points_pure trivial

/-- A value that is bound need not follow a comma. -/
theorem advances_boundValue {values : List (Token × Entity)}
    {I : List (Token × Entity) → Prop} (h : I values)
    (hvalue : ∀ p : Token × Entity, p.1.In line → I (values ++ [p])) :
    Advances line (boundValue values) I := by
  unfold boundValue
  refine advances_bind (points_skip _) fun _ _ => advances_bind points_hasMore fun more _ => ?_
  refine advances_ite (advances_done h) ?_
  exact Takes.advances (I := I) (takes_bind takes_kernelValue fun p hp => points_pure (hvalue p hp))

theorem unrolls_boundValue : Unrolls line boundValue :=
  unrolls_of_advances fun _ => advances_boundValue trivial fun _ _ => trivial

theorem points_bindArguments : Points line bindArguments fun _ => True := by
  unfold bindArguments
  refine points_bind points_kernelOperand fun ⟨_, kernel⟩ _ => ?_
  refine points_bind (points_skip _) fun _ _ => ?_
  refine points_bind (points_numberArgument _ _) fun ⟨first, _⟩ _ => ?_
  have hvalue : ∀ values, ValuesIn line values →
      Points line (boundValue values) fun st => ValuesIn line st.value :=
    fun values h => (advances_boundValue (I := ValuesIn line) h fun p hp => h.append hp).points
  refine points_bind (points_loop hvalue fun _ hp => nomatch hp) fun values hvalues => ?_
  refine points_bind points_refuseInvalid fun _ _ => ?_
  extract_lets rest
  have hrest : ∀ u, Points line (rest u) fun _ => True := fun _ => by
    refine points_bind (points_liftM Action.points_activeDriver) fun _ _ => ?_
    exact points_bind (points_liftM (points_setArguments kernel first values hvalues)) fun _ _ =>
      points_pure trivial
  refine points_ite (fun _ => ?_) fun _ => hrest ()
  refine points_bind points_here fun sp hsp => ?_
  exact points_bind (points_raise (Q := fun _ => True) _ hsp) fun u _ => hrest u

/-! ## Help and the end -/

theorem points_help : Points line help fun _ => True := by
  unfold help
  refine points_bind points_hasMore fun more _ => points_ite (fun _ => ?_) fun _ => ?_
  · exact points_bind (points_liftM (Action.points_print _)) fun _ _ => points_pure trivial
  · refine points_bind (points_choice _ _ _) fun topic _ => ?_
    refine points_bind (points_warnTrailing _) fun _ _ => ?_
    exact points_bind (points_liftM (Action.points_print _)) fun _ _ => points_pure trivial

theorem points_quit : Points line quit fun _ => True := by
  unfold quit
  exact points_bind (points_warnTrailing _) fun _ _ => points_pure trivial

/-! ## Lines -/

variable {runner : ScriptRunner}

/-- A script that fails as a whole is blamed on its path. -/
theorem points_script (hr : ∀ source, Action.Points line (runner source)) :
    Points line (script runner) fun _ => True := by
  unfold script
  refine points_bind points_pathArgument fun ⟨path, sp⟩ hsp => ?_
  refine points_bind (points_warnTrailing _) fun _ _ => points_bind points_session fun s _ => ?_
  split
  · exact points_raise _ hsp
  · exact points_liftM (Action.points_atSpan (hr _) hsp)

theorem points_commandName : Points line commandName fun _ => True := by
  unfold commandName
  refine points_bind points_consume fun t ht => ?_
  split
  · exact points_pure trivial
  · exact points_raise _ ht.span
  · exact points_raise _ ht.span

theorem points_perform (hr : ∀ source, Action.Points line (runner source)) (c : Command) :
    Points line (perform runner c) fun _ => True := by
  cases c with
  | load => exact points_load
  | select => exact points_select
  | info => exact points_info
  | list => exact points_list
  | set => exact points_settings
  | release => exact points_release
  | save => exact points_save
  | run => exact points_run
  | script => exact points_script hr
  | wait => exact points_wait
  | flush => exact points_flush
  | bind => exact points_bindArguments
  | help => exact points_help
  | quit => exact points_quit

/-- **The failure of a line points into that line**, if that of a script points into every line. -/
theorem points_execute (hr : ∀ source, Action.Points line (runner source)) :
    Points line (execute runner) fun _ => True := by
  unfold execute
  refine points_bind points_cursor fun c hc => ?_
  split
  · exact points_pure trivial
  · exact points_throw hc.current.points_invalidFailure
  · refine points_ite (fun _ => points_assignment) fun _ => ?_
    exact points_bind points_commandName fun c _ => points_perform hr c

end Statement

end DriverBench
