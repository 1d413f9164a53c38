import DriverBench.Proofs.Command.Balance
import DriverBench.Proofs.Expression.Even
/-!
# Commands come to the same in near sessions

A command reads alike in near sessions, and what it does to a session it does to the other one. For
the objects that it is about it makes calls of the driver, and these are alike because the line
holds the objects (`Holds`). Where one session waits and the other one does not, both go on: the one
counts a wait, and the other one has operations under way.
-/

namespace DriverBench

open Device Simulator
open Session (Near Keeps)

namespace Reading

variable {α β : Type}

/-- A call that is given handles of what the line holds. -/
theorem evenFrom_drive_held {c : Call α} {hs ks : List Handle}
    (hc : Action.Even (State.Near (ks.map (·.id))) c) (hks : ks ⊆ hs) :
    Action.EvenFrom Near (Holds hs) (Action.drive c) :=
  Action.evenFrom_drive hc fun _ h _ hk => h.balanced.knows (.inl (h.mem_handles (hks hk)))

/-! Reading goes before, and what the line holds stays held. -/

theorem evenFrom_bind_held {hs : List Handle} {r : Reading β} {f : β → Reading α}
    (h : Even Near r) (hk : Within Keeps r) (hf : ∀ b, EvenFrom Near (Holds hs) (f b)) :
    EvenFrom Near (Holds hs) (r >>= f) :=
  evenFrom_bind_of_keeps (fun _ _ hk h => Holds.keeps h hk) h hk hf

theorem evenFrom_bind_idle {r : Reading β} {f : β → Reading α} (h : Even Near r)
    (hk : Within Keeps r) (hf : ∀ b, EvenFrom Near Session.Idle (f b)) :
    EvenFrom Near Session.Idle (r >>= f) :=
  evenFrom_bind_of_keeps (fun _ _ hk h => h.keeps hk) h hk hf

theorem evenFrom_evaluateKept : EvenFrom Near (fun s => s.Balanced []) evaluateKept :=
  EvenFrom.bind_even evenFrom_evaluate fun e =>
    even_bind (even_liftM (Action.even_keep e)) fun _ => even_pure e

theorem evenFrom_kernelOperand : EvenFrom Near (fun s => s.Balanced []) kernelOperand := by
  unfold kernelOperand
  refine evenFrom_bind even_current within_current fun t => ?_
  refine EvenFrom.bind_even evenFrom_evaluateKept fun e => ?_
  split
  · exact even_pure _
  · exact even_raise _ _

theorem evenFrom_kernelValue : EvenFrom Near (fun s => s.Balanced []) kernelValue := by
  unfold kernelValue
  refine evenFrom_bind even_current within_current fun t => ?_
  have hrest : EvenFrom Near (fun s => s.Balanced []) (return (t, ← evaluateKept)) :=
    EvenFrom.bind_even evenFrom_evaluateKept fun e => even_pure _
  exact EvenFrom.ite (fun _ => evenFrom_bind (even_raise _ _) (within_raise _ _) fun _ => hrest)
    fun _ => hrest

end Reading

namespace Statement

open Reading

/-! ## Launching kernels -/

theorem evenFrom_launchItem (globalSize : List Nat) (found : LaunchRest) :
    EvenFrom Near (fun s => s.Balanced []) (launchItem globalSize found) := by
  unfold launchItem
  refine evenFrom_bind (even_skip _) (within_skip _) fun close =>
    EvenFrom.ite (fun _ => (even_pure _).from) fun _ => ?_
  refine evenFrom_bind (even_require _ _) (within_require _ _) fun _ => ?_
  refine evenFrom_bind (even_localSizeAhead found) (within_localSizeAhead found) fun ahead =>
    EvenFrom.ite (fun _ => ?_) fun _ => ?_
  · exact (even_bind (even_localSize globalSize) fun _ => even_pure _).from
  · exact EvenFrom.bind_even evenFrom_kernelValue fun v => even_pure _

/-- Arguments are set alike as long as the line holds the kernel and what it is given. -/
theorem evenFrom_setArguments {hs : List Handle} {kernel : Handle} (hk : kernel ∈ hs) (index : Nat)
    {values : List (Token × Entity)} (hv : valueHandles values ⊆ hs) :
    Action.EvenFrom Near (Holds hs) (setArguments kernel index values) := by
  induction values generalizing index with
  | nil => exact (Action.even_pure _).from
  | cons v rest ih =>
    obtain ⟨t, e⟩ := v
    obtain ⟨hfirst, hrest⟩ : e.handles ⊆ hs ∧ valueHandles rest ⊆ hs := List.append_subset.1 hv
    unfold setArguments
    split
    · exact (Action.even_throw _).from
    · next value hvalue =>
      have hset : Action.Even (State.Near ((kernel :: e.handles).map (·.id)))
          (setArgument kernel index value) := by
        refine even_setArgument (by simp) index fun m hm => ?_
        have hmem : m.handle ∈ e.handles := by
          rw [Entity.mem_handles]
          cases ho : e.object <;> simp_all [argumentValue?, Object.data?, Object.handle?]
        exact List.mem_map_of_mem (List.mem_cons_of_mem _ hmem)
      have hdrive := Action.EvenFrom.atSpan
        (evenFrom_drive_held hset (List.cons_subset.2 ⟨hk, hfirst⟩)) t.span
      have hkeeps : Action.Within Keeps
          ((Action.drive (setArgument kernel index value)).atSpan t.span) :=
        Action.within_atSpan (Action.within_keeps_drive
          ((within_setArgument kernel index value).mono fun _ _ h => h.sameLive)) _
      exact Action.EvenFrom.bind hdrive (hkeeps.ensures fun _ _ hs h => Holds.keeps h hs)
        fun _ => ih (index + 1) hrest

theorem evenFrom_prepareLaunch : EvenFrom Near (fun s => s.Balanced []) prepareLaunch := by
  unfold prepareLaunch
  refine EvenFrom.bind evenFrom_kernelOperand ensures_kernelOperand fun k => ?_
  refine evenFrom_bind_held (even_require _ _) (within_require _ _) fun _ => ?_
  refine evenFrom_bind_held even_workSize within_workSize fun globalSize => ?_
  -- What was read so far is held while more is read.
  refine EvenFrom.bind
    (EvenFrom.loop (I := fun found : LaunchRest => Holds (k.2 :: valueHandles found.values))
      (fun found => EvenFrom.mono (evenFrom_launchItem globalSize found) fun _ h => h.balanced)
      (ensures_launchItem k.2 globalSize) {})
    (Ensures.loop (I := fun found : LaunchRest => Holds (k.2 :: valueHandles found.values))
      (ensures_launchItem k.2 globalSize) {}) fun rest => ?_
  refine evenFrom_bind_held (even_warnTrailing _) (within_warnTrailing _) fun _ => ?_
  refine evenFrom_activeDriver_bind fun d d' _ => ?_
  refine EvenFrom.bind_even (EvenFrom.liftM ?_) fun _ => even_pure _
  exact Action.EvenFrom.mono
    (evenFrom_setArguments List.mem_cons_self 0 (List.subset_cons_self _ _)) fun _ h => h.1

/-- Where the one session has an operation under way, the other one has waited. -/
theorem parallel_finish (es : List Entity) :
    Parallel Near (fun s => s.driver?.isSome)
      (change fun s => { s with inFlight := s.inFlight ++ es })
      (liftM (Action.drive finish)) := by
  intro c s s' h _ hd'
  obtain ⟨d', hd'⟩ := Option.isSome_iff_exists.1 hd'
  obtain ⟨n, hn, hget'⟩ := Session.exists_of_driver? hd'
  rw [run_liftM, Action.run_drive, hn]
  dsimp only
  rw [hget']
  refine ⟨rfl, { h with fleet := h.fleet.modify fun d hget => ?_ }⟩
  obtain ⟨e', he', hnear⟩ := h.fleet.exists_of_left hget
  obtain rfl := Option.some.inj (hget'.symm.trans he')
  exact { hnear with }

theorem even_awaitLaunch (values : List (Token × Entity)) : Even Near (awaitLaunch values) := by
  have hkeep : Even Near
      (change fun s => { s with inFlight := s.inFlight ++ values.map Prod.snd }) :=
    even_change fun _ _ h => { h with }
  have hfinish : Even Near (liftM (Action.drive finish)) :=
    even_liftM (Action.even_drive even_finish)
  have hmixed := parallel_finish (values.map Prod.snd)
  refine evenFrom_activeDriver_bind fun d d' _ => Parallel.mono (P := fun s => s.driver?.isSome) ?_
    fun _ h => h.2
  -- Where just one of the drivers waits, it does so while the other side notes what is under way.
  by_cases hd : d.blocking = true <;> by_cases hd' : d'.blocking = true
  · rw [if_pos hd, if_pos hd']
    exact hfinish.from
  · rw [if_pos hd, if_neg hd']
    exact hmixed.symm fun _ _ h => h.symm
  · rw [if_neg hd, if_pos hd']
    exact hmixed
  · rw [if_neg hd, if_neg hd']
    exact hkeep.from

theorem evenFrom_run : EvenFrom Near (fun s => s.Balanced []) run := by
  unfold run
  refine EvenFrom.bind evenFrom_prepareLaunch ensures_prepareLaunch fun plan => ?_
  have hcall : Action.Even (State.Near ([plan.kernel].map (·.id))) plan.call :=
    even_enqueueKernel (by simp) _ _
  refine EvenFrom.bind_even (EvenFrom.liftM (Action.EvenFrom.atSpan
    (evenFrom_drive_held hcall (by simp)) _)) fun _ => ?_
  exact even_bind (even_awaitLaunch _) fun _ => even_pure _

theorem evenFrom_boundValue (values : List (Token × Entity)) :
    EvenFrom Near (fun s => s.Balanced []) (boundValue values) := by
  unfold boundValue
  refine evenFrom_bind (even_skip _) (within_skip _) fun _ => ?_
  refine evenFrom_bind even_hasMore within_hasMore fun more =>
    EvenFrom.ite (fun _ => (even_pure _).from) fun _ => ?_
  exact EvenFrom.bind_even evenFrom_kernelValue fun v => even_pure _

theorem evenFrom_bindArguments : EvenFrom Near (fun s => s.Balanced []) bindArguments := by
  unfold bindArguments
  refine EvenFrom.bind evenFrom_kernelOperand ensures_kernelOperand fun k => ?_
  refine evenFrom_bind_held (even_skip _) (within_skip _) fun _ => ?_
  refine evenFrom_bind_held (even_numberArgument _ _) (within_numberArgument _ _) fun first => ?_
  refine EvenFrom.bind
    (EvenFrom.loop (I := fun values => Holds (k.2 :: valueHandles values))
      (fun values => EvenFrom.mono (evenFrom_boundValue values) fun _ h => h.balanced)
      (ensures_boundValue k.2) [])
    (Ensures.loop (I := fun values => Holds (k.2 :: valueHandles values))
      (ensures_boundValue k.2) []) fun values => ?_
  refine evenFrom_bind_held even_refuseInvalid within_refuseInvalid fun _ => ?_
  have hrest : EvenFrom Near (Holds (k.2 :: valueHandles values)) (do
      let _ ← Action.activeDriver
      setArguments k.2 first.1 values
      return Outcome.good) := by
    refine evenFrom_activeDriver_bind fun d d' _ => ?_
    refine EvenFrom.bind_even (EvenFrom.liftM ?_) fun _ => even_pure _
    exact Action.EvenFrom.mono
      (evenFrom_setArguments List.mem_cons_self _ (List.subset_cons_self _ _)) fun _ h => h.1
  refine EvenFrom.ite (fun _ => ?_) fun _ => hrest
  refine evenFrom_bind_held even_here within_here fun _ => ?_
  exact evenFrom_bind_held (even_raise _ _) (within_raise _ _) fun _ => hrest

/-! ## Bindings and options -/

theorem even_bindName (name : String) (e : Entity) : Even Near (bindName name e) := by
  unfold bindName
  refine even_session_bind (fun s s' h => by rw [h.env]) fun s => ?_
  split
  · exact even_change fun _ _ h => { h with env := rfl }
  · exact even_liftM (Action.even_raise _)

theorem evenFrom_assignment : EvenFrom Near (fun s => s.Balanced []) assignment := by
  unfold assignment
  refine evenFrom_bind even_target within_target fun name => ?_
  refine evenFrom_bind even_advance within_advance fun _ => ?_
  refine EvenFrom.bind_even evenFrom_evaluate fun e => even_bind even_current fun t => ?_
  have hbind : Even Near (bindName name e >>= fun _ => pure Outcome.good) :=
    even_bind (even_bindName name e) fun _ => even_pure _
  refine even_ite (even_bind (even_change fun _ _ h => h.letGo [e] [e]) fun _ => ?_) hbind
  exact even_bind even_cursor fun c => even_bind (even_raise _ _) fun _ => hbind

theorem even_release : Even Near release := by
  unfold release
  refine even_bind even_hasMore fun more => ?_
  extract_lets rest
  have hrest : ∀ u, Even Near (rest u) := fun _ => by
    refine even_bind (even_loop even_releasedName []) fun names => ?_
    refine even_bind even_refuseInvalid fun _ => Parallel.session_bind fun s s' h _ _ => ?_
    have hunbind := h.unbind names
    generalize s.unbind names = o, s'.unbind names = o' at hunbind ⊢
    rcases o with f | ⟨count, t⟩ <;> rcases o' with f' | ⟨count', t'⟩
    · obtain rfl : f' = f := hunbind
      exact (even_liftM (Action.even_raise _)).from
    · exact hunbind.elim
    · exact hunbind.elim
    · obtain ⟨rfl, hnear⟩ := hunbind
      exact Parallel.replace hnear <|
        even_bind (even_liftM (Action.even_note _)) fun _ => even_pure _
  exact even_ite (even_bind even_here fun _ => even_bind (even_raise _ _) hrest) (hrest ())

theorem even_settings : Even Near settings := by
  unfold settings changeSetting
  refine even_bind even_hasMore fun more => even_ite ?_ even_showSettings
  refine even_bind (even_choice _ _ _) fun setting => even_bind even_truthValue fun value => ?_
  refine even_bind (even_warnTrailing _) fun _ => ?_
  exact even_bind (even_change fun _ _ h => h.configure setting value) fun _ => even_pure _

/-! ## The driver and files -/

theorem even_load : Even Near load := by
  unfold load
  refine even_bind even_libraryArgument fun library => even_bind (even_warnTrailing _) fun _ => ?_
  split
  · exact even_throw _
  · refine Parallel.session_bind fun s s' h _ _ => ?_
    have hcount : s'.setDriver.1 = s.setDriver.1 := h.fst_invalidate
    dsimp only
    rw [hcount]
    refine Parallel.replace h.setDriver <| even_bind (even_liftM (Action.even_note _)) fun _ => ?_
    exact even_bind (even_noteCleared _) fun _ => even_pure _

theorem even_select : Even Near select := by
  unfold select changeSelection
  refine even_bind even_hasMore fun more => even_ite ?_ even_showSelection
  refine even_bind (even_choice _ _ _) fun target => even_bind (even_sizeArgument _) fun index => ?_
  refine even_bind (even_warnTrailing _) fun _ => ?_
  have hselect : Action.Even (State.Near []) (target.select index.1) := by
    cases target
    · exact even_selectPlatform _
    · exact even_selectDevice _
  refine evenFrom_activeDriver_bind fun d d' _ => ?_
  have hdrive := Action.even_atSpan (Action.even_drive hselect) index.2.span
  refine (even_bind (even_liftM hdrive) fun _ => ?_).from
  refine Parallel.session_bind fun s s' h _ _ => ?_
  dsimp only
  rw [h.fst_invalidate]
  refine Parallel.replace h.invalidate <| even_bind (even_liftM (Action.even_note _)) fun _ => ?_
  exact even_bind (even_noteCleared _) fun _ => even_pure _

theorem even_wait : Even Near wait := by
  unfold wait
  refine even_bind (even_warnTrailing _) fun _ => ?_
  refine even_bind (even_liftM (Action.even_drive even_finish)) fun _ => ?_
  refine even_bind (even_change fun s s' h => ?_) fun _ => even_pure _
  have hdone : ({ s with inFlight := [] } : Session).Near { s' with inFlight := [] } := { h with }
  exact hdone.letGo _ _

theorem even_flush : Even Near flush := by
  unfold flush
  refine even_bind (even_warnTrailing _) fun _ => ?_
  exact even_bind (even_liftM (Action.even_drive Simulator.even_flush)) fun _ => even_pure _

/-- What is saved of an object that the line holds is the same on both sides. -/
theorem evenFrom_fileBytes (path : String) (e : Entity) :
    Action.EvenFrom Near (Holds e.handles) (fileBytes path e.object) := by
  have himage : ∀ format desc bytes, Action.Even Near (imageFile path format desc bytes) := by
    intro format desc bytes
    unfold imageFile
    refine Action.even_get_bind (fun s s' h => by rw [h.codec]) fun s => ?_
    split
    · exact Action.even_raise _
    · exact Action.even_pure _
    · exact Action.even_pure _
  cases ho : e.object with
  | data d => exact (Action.even_pure _).from
  | image i => exact (himage _ _ _).from
  | memory m =>
    have hmem : [m.handle] ⊆ e.handles := by simp [Entity.mem_handles, ho, Object.handle?]
    change Action.EvenFrom Near (Holds e.handles) (memoryFile path m)
    unfold memoryFile
    split
    · exact (Action.even_raise _).from
    · next room _ =>
      split
      · next format desc _ =>
        have hread : Action.Even (State.Near ([m.handle].map (·.id)))
            (readImage m (0, 0, 0) desc.region room) :=
          even_readImage (by simp) _ _ _
        exact Action.EvenFrom.bind_even (evenFrom_drive_held hread hmem) fun bytes => himage _ _ _
      · have hread : Action.Even (State.Near ([m.handle].map (·.id))) (readBuffer m 0 m.size) :=
          even_readBuffer (by simp) _ _
        exact evenFrom_drive_held hread hmem
  | program h =>
    have hmem : [h] ⊆ e.handles := by simp [Entity.mem_handles, ho, Object.handle?]
    have hread : Action.Even (State.Near ([h].map (·.id))) (programBinary h) :=
      even_programBinary (by simp)
    exact evenFrom_drive_held hread hmem
  | kernel h name => exact (Action.even_raise _).from

theorem even_writeFile (path : String) (bytes : List UInt8) :
    Action.Even Near (writeFile path bytes) := by
  intro s s' h _ _
  unfold writeFile
  rw [Action.run_get_bind, Action.run_get_bind, h.files]
  cases s.files.write path bytes with
  | ok files => exact ⟨rfl, { h with files := rfl }⟩
  | error e => exact ⟨rfl, h⟩

theorem evenFrom_save : EvenFrom Near (fun s => s.Balanced []) save := by
  unfold save
  refine evenFrom_bind even_current within_current fun t => ?_
  have hkept := (ensures_evaluateKept []).mono
    (fun s (hs : s.Balanced []) => ⟨hs, by simp⟩) (fun _ _ h => h) fun _ h => h
  refine EvenFrom.bind evenFrom_evaluateKept hkept fun e => ?_
  refine evenFrom_bind_held even_pathArgument within_pathArgument fun path => ?_
  refine evenFrom_bind_held (even_warnTrailing _) (within_warnTrailing _) fun _ => ?_
  refine EvenFrom.bind_even
    (EvenFrom.liftM (Action.EvenFrom.atSpan (evenFrom_fileBytes _ _) _)) fun bytes => ?_
  refine even_bind (even_liftM (Action.even_atSpan (even_writeFile _ _) _)) fun _ => ?_
  exact even_bind (even_liftM (Action.even_note _)) fun _ => even_pure _

/-! ## Lines -/

/-- A way to run scripts that comes to the same in near sessions. -/
def RunsEven (runner : ScriptRunner) : Prop :=
  ∀ source, Action.EvenFrom Near Session.Idle (runner source)

theorem evenFrom_script {runner : ScriptRunner} (hr : RunsEven runner) :
    EvenFrom Near Session.Idle (script runner) := by
  unfold script
  refine evenFrom_bind_idle even_pathArgument within_pathArgument fun path => ?_
  refine evenFrom_bind_idle (even_warnTrailing _) (within_warnTrailing _) fun _ => ?_
  refine Parallel.session_bind fun s s' h _ _ => ?_
  rw [h.files]
  split
  · exact (even_raise _ _).from
  · exact EvenFrom.liftM (Action.EvenFrom.atSpan (hr _) _)

/-- **Every command** comes to the same in near sessions between two lines. -/
theorem evenFrom_perform {runner : ScriptRunner} (hr : RunsEven runner) (c : Command) :
    EvenFrom Near Session.Idle (perform runner c) := by
  have hof : ∀ {r : Reading Outcome}, EvenFrom Near (fun s => s.Balanced []) r →
      EvenFrom Near Session.Idle r := fun h => EvenFrom.mono h fun _ hs => hs.balanced
  cases c with
  | load => exact even_load.from
  | select => exact even_select.from
  | info => exact even_info.from
  | list => exact even_list.from
  | set => exact even_settings.from
  | release => exact even_release.from
  | save => exact hof evenFrom_save
  | run => exact hof evenFrom_run
  | script => exact evenFrom_script hr
  | wait => exact even_wait.from
  | flush => exact even_flush.from
  | bind => exact hof evenFrom_bindArguments
  | help => exact even_help.from
  | quit => exact even_quit.from

theorem evenFrom_execute {runner : ScriptRunner} (hr : RunsEven runner) :
    EvenFrom Near Session.Idle (execute runner) := by
  unfold execute
  refine evenFrom_bind_idle even_cursor within_cursor fun c => ?_
  split
  · exact (even_pure _).from
  · exact (even_throw _).from
  · refine EvenFrom.ite (fun _ => ?_) fun _ => ?_
    · exact EvenFrom.mono evenFrom_assignment fun _ h => h.balanced
    · exact evenFrom_bind_idle even_commandName within_commandName fun c => evenFrom_perform hr c

end Statement

end DriverBench
