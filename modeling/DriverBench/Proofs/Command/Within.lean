import DriverBench.Proofs.Command.Spares
/-!
# Commands within a frame

A command reads, does one thing, and says what it did. Reading spares the session, so whatever
relation allows for that and for text on the streams holds between the sessions before and behind a
command as soon as it allows for the one thing (`Session.Allows`, `within_perform`).
-/

namespace DriverBench

open Device Simulator

/-- What a relation between sessions has to allow for a command, beside reading and talking. -/
def Session.Allows (R : Session → Session → Prop) : Command → Prop
  | .load => ∀ s : Session, R s s.setDriver.2
  | .select =>
    (∀ (target : SelectionTarget) index, Action.Within R (Action.drive (target.select index))) ∧
      ∀ s : Session, R s s.invalidate.2
  | .set => ∀ (s : Session) setting value, R s (s.configure setting value)
  | .release => ∀ (s s' : Session) names count, s.unbind names = .ok (count, s') → R s s'
  | .save => ∀ (s : Session) files, R s { s with files }
  | .run =>
    (∀ plan : LaunchPlan, Action.Within R (Action.drive plan.call)) ∧
      Action.Within R (Action.drive finish) ∧
      ∀ (s : Session) es, R s { s with inFlight := s.inFlight ++ es }
  | .wait =>
    Action.Within R (Action.drive finish) ∧
      ∀ s : Session, R s ({ s with inFlight := [] }.letGo s.inFlight)
  | .flush => Action.Within R (Action.drive flush)
  | .info | .list | .script | .bind | .help | .quit => True

namespace Reading

variable {α : Type} {R : Session → Session → Prop}

theorem within_change {f : Session → Session} (h : ∀ s : Session, R s (f s)) :
    Within R (change f) :=
  fun _ s => h s

/-- A look at the session, and what is done with the session that was seen. -/
theorem within_session_bind {f : Session → Reading α} (h : ∀ c s, R s ((f s).run c s).2) :
    Within R (session >>= f) :=
  h

end Reading

namespace Statement

open Reading
open Session (Allows Spares)

variable {R : Session → Session → Prop} [Session.TalkFrame R]

/-- What comes behind the expression of an assignment: one name is bound, or nothing. -/
theorem within_assigned (hreads : ∀ s s', Session.Reads s s' → R s s') {name : String}
    (hinsert : ∀ (s : Session) e env, s.env.insert name e = .ok env → R s { s with env })
    (e : Entity) :
    Within R (do
      if (← current).kind ≠ .finish then
        change (·.letGo [e])
        raise .trailingInput (← cursor).remainingSpan
      bindName name e
      return Outcome.good) := by
  unfold bindName
  refine within_bind within_current fun t => ?_
  extract_lets rest
  have hrest : ∀ u, Within R (rest u) := fun _ => by
    refine within_bind (within_session_bind fun c s => ?_) fun _ => within_pure _
    cases hi : s.env.insert name e with
    | ok env => exact hinsert s e env hi
    | error fault => exact Frame.refl s
  refine within_ite (within_bind (within_change fun s => ?_) fun _ => ?_) (hrest ())
  · exact hreads _ _ (Session.ReadFrame.of_builds _ _ (Session.builds_letGo s [e]))
  · exact within_bind within_cursor fun c => within_bind (within_raise _ _) hrest

theorem within_assignment (hreads : ∀ s s', Session.Reads s s' → R s s')
    (hinsert : ∀ (s : Session) name e env, s.env.insert name e = .ok env → R s { s with env }) :
    Within R assignment := by
  unfold assignment
  refine within_bind within_target fun name => within_bind within_advance fun _ => ?_
  refine within_bind (within_builds_evaluate.mono fun _ _ h =>
    hreads _ _ (Session.ReadFrame.of_builds _ _ h)) fun e => ?_
  exact within_assigned hreads (fun s => hinsert s name) e

theorem within_release (h : Allows R .release) : Within R release := by
  unfold release
  refine within_bind within_hasMore fun more => ?_
  extract_lets rest
  have hrest : ∀ u, Within R (rest u) := fun _ => by
    refine within_bind (within_loop within_releasedName []) fun names => ?_
    refine within_bind within_refuseInvalid fun _ => within_session_bind fun c s => ?_
    cases hu : s.unbind names with
    | error e => exact Frame.refl s
    | ok p =>
      obtain ⟨count, s'⟩ := p
      have hnote : Within R (do
          Action.note s!"{count} 個の束縛を解放しました"
          return Outcome.good) :=
        within_bind (within_liftM (Action.within_note _)) fun _ => within_pure _
      exact Frame.trans (h s s' names count hu) (hnote c s')
  refine within_ite (within_bind within_here fun _ => ?_) (hrest ())
  exact within_bind (within_raise _ _) hrest

theorem within_settings (h : Allows R .set) : Within R settings := by
  unfold settings changeSetting
  refine within_bind within_hasMore fun more => within_ite ?_ within_showSettings
  refine within_bind (within_choice _ _ _) fun setting => ?_
  refine within_bind within_truthValue fun value => ?_
  refine within_bind (within_warnTrailing _) fun _ => within_bind ?_ fun _ => within_pure _
  exact within_change fun s => h s setting value

theorem within_load (h : Allows R .load) : Within R load := by
  unfold load
  refine within_bind within_libraryArgument fun library => ?_
  refine within_bind (within_warnTrailing _) fun _ => ?_
  split
  · exact within_throw _
  · refine within_session_bind fun c s => ?_
    have hnote : Within R (do
        Action.note s!"ドライバ '{library.1}' を読み込みました"
        noteCleared s.setDriver.1
        return Outcome.good) :=
      within_bind (within_liftM (Action.within_note _)) fun _ =>
        within_bind (within_noteCleared _) fun _ => within_pure _
    exact Frame.trans (h s) (hnote c s.setDriver.2)

theorem within_select (h : Allows R .select) : Within R select := by
  unfold select changeSelection
  refine within_bind within_hasMore fun more => within_ite ?_ within_showSelection
  refine within_bind (within_choice _ _ _) fun target => ?_
  refine within_bind (within_sizeArgument _) fun index => ?_
  refine within_bind (within_warnTrailing _) fun _ => ?_
  refine within_bind (within_liftM Action.within_activeDriver) fun _ => ?_
  refine within_bind (within_liftM (Action.within_atSpan (h.1 target index.1) _)) fun _ => ?_
  refine within_session_bind fun c s => ?_
  have hnote : Within R (do
      Action.note s!"{target.name} {index.1} を選択しました"
      noteCleared s.invalidate.1
      return Outcome.good) :=
    within_bind (within_liftM (Action.within_note _)) fun _ =>
      within_bind (within_noteCleared _) fun _ => within_pure _
  exact Frame.trans (h.2 s) (hnote c s.invalidate.2)

theorem within_wait (h : Allows R .wait) : Within R wait := by
  unfold wait
  refine within_bind (within_warnTrailing _) fun _ => within_bind (within_liftM h.1) fun _ => ?_
  exact within_bind (within_change h.2) fun _ => within_pure _

theorem within_flush (h : Allows R .flush) : Within R flush := by
  unfold flush
  exact within_bind (within_warnTrailing _) fun _ =>
    within_bind (within_liftM h) fun _ => within_pure _

/-- What comes behind the object to be saved. -/
theorem within_saved (hreads : ∀ s s', Session.Reads s s' → R s s') (h : Allows R .save)
    (t : Token) (e : Entity) : Within R (do
      let (path, span) ← pathArgument
      warnTrailing .save
      let bytes ← Action.atSpan (fileBytes path e.object) t.span
      Action.atSpan (writeFile path bytes) span
      Action.note s!"{bytes.length} バイトを '{path}' に保存しました"
      return Outcome.good) := by
  refine within_bind within_pathArgument fun path => within_bind (within_warnTrailing _) fun _ => ?_
  refine within_bind (within_liftM (Action.within_atSpan (within_fileBytes (fun c hc => ?_) _ _) _))
    fun bytes => ?_
  · refine (Action.within_builds_drive ?_).mono fun _ _ hd =>
      hreads _ _ (Session.ReadFrame.of_builds _ _ hd)
    exact hc.mono fun d d' hd => by rw [hd]; exact Frame.refl d
  · refine within_bind (within_liftM (Action.within_atSpan (within_writeFile h _ _) _)) fun _ => ?_
    exact within_bind (within_liftM (Action.within_note _)) fun _ => within_pure _

theorem within_save (hreads : ∀ s s', Session.Reads s s' → R s s') (h : Allows R .save) :
    Within R save := by
  unfold save
  refine within_bind within_current fun t => ?_
  exact within_bind (within_evaluateKept.mono hreads) fun e => within_saved hreads h t e

/-- What comes behind the making ready of a launch. -/
theorem within_launched (h : Allows R .run) (plan : LaunchPlan) : Within R (do
      Action.atSpan (Action.drive plan.call) plan.token.span
      awaitLaunch plan.rest.values
      return Outcome.good) := by
  unfold awaitLaunch
  refine within_bind (within_liftM (Action.within_atSpan (h.1 plan) _)) fun _ => ?_
  refine within_bind ?_ fun _ => within_pure _
  refine within_bind (within_liftM Action.within_activeDriver) fun d => within_ite ?_ ?_
  · exact within_liftM h.2.1
  · exact within_change fun s => h.2.2 s _

theorem within_run (hspares : ∀ s s', Session.Spares s s' → R s s') (h : Allows R .run) :
    Within R run :=
  within_bind (within_prepareLaunch.mono hspares) (within_launched h)

/-- **A command that sets no argument** stays within a relation that allows for reading and for what
the command does. -/
theorem within_perform_of_reads (hreads : ∀ s s', Session.Reads s s' → R s s')
    (runner : ScriptRunner) {c : Command} (hc : c ∉ [Command.script, .bind, .run])
    (h : Allows R c) : Within R (perform runner c) := by
  cases c with
  | load => exact within_load h
  | select => exact within_select h
  | info => exact within_info
  | list => exact within_list
  | set => exact within_settings h
  | release => exact within_release h
  | save => exact within_save hreads h
  | wait => exact within_wait h
  | flush => exact within_flush h
  | help => exact within_help
  | quit => exact within_quit
  | script | bind | run => exact absurd (by decide) hc

/-- **A command stays within a relation** that allows for what the command does. -/
theorem within_perform (hspares : ∀ s s', Session.Spares s s' → R s s') (runner : ScriptRunner)
    {c : Command} (hc : c ≠ .script) (h : Allows R c) : Within R (perform runner c) := by
  by_cases hbind : c = .bind
  · exact hbind ▸ within_bindArguments.mono hspares
  by_cases hrun : c = .run
  · subst hrun
    exact within_run hspares h
  exact within_perform_of_reads (fun s s' hr => hspares s s' hr.toSpares) runner
    (by simp [hc, hbind, hrun]) h

end Statement

end DriverBench
