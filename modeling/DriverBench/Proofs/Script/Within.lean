import DriverBench.Proofs.Command.Execute
import DriverBench.Proofs.Script.Run
/-!
# Scripts within a relation

What a script does is what its lines do, one after the other and one level deeper; and a line does
what it does with the scripts that it runs. So a relation between sessions that lines stay within as
soon as the scripts do that they run (`Session.Scripted`) is one that scripts stay within, and with
them every line.
-/

namespace DriverBench

/-- What a relation between sessions has to allow for lines and scripts: what a line does, if the
scripts that it runs stay within the relation, the change of depth, and a report. -/
structure Session.Scripted (R : Session → Session → Prop) : Prop where
  line : ∀ runner : ScriptRunner, (∀ source, Action.Within R (runner source)) →
    ∀ (line : String) (s : Session), R s (runLineWith runner line s).2
  depth : ∀ (s : Session) depth, R s { s with depth }
  report : ∀ (s : Session) line f, R s (s.report line f)

namespace Statement

variable {R : Session → Session → Prop} [Session.TalkFrame R] {runner : ScriptRunner}

theorem within_script (hr : ∀ source, Action.Within R (runner source)) :
    Reading.Within R (script runner) := by
  unfold script
  refine Reading.within_bind Reading.within_pathArgument fun path => ?_
  refine Reading.within_bind (Reading.within_warnTrailing _) fun _ => ?_
  refine Reading.within_bind Reading.within_session fun s => ?_
  split
  · exact Reading.within_raise _ _
  · exact Reading.within_liftM (Action.within_atSpan (hr _) _)

end Statement

/-! ## What stands around a line -/

namespace Session

section Around

variable {R : Session → Session → Prop} [TalkFrame R] {runner : ScriptRunner}

/-- A line stays within what assignments and its command stay within. -/
theorem within_execute {c : Cursor} (hassignment : ∀ s, R s (Statement.assignment.run c s).2)
    (hperform : ∀ command, Statement.command? c = some command →
      Reading.Within R (Statement.perform runner command)) (s : Session) :
    R s ((Statement.execute runner).run c s).2 := by
  rcases Statement.execute_cases runner c with
    hrun | ⟨f, c', hrun⟩ | hrun | ⟨command, hcommand, hrun⟩
  · rw [hrun]
    exact Frame.refl s
  · rw [hrun]
    exact Frame.refl s
  · rw [hrun]
    exact hassignment s
  · rw [hrun]
    exact hperform command hcommand _ _

/-- Of what a line does only a script can touch what every other command leaves alone. -/
theorem within_execute_of_steady (hsteady : ∀ s s', Steady s s' → R s s')
    (hr : ∀ source, Action.Within R (runner source)) :
    Reading.Within R (Statement.execute runner) := by
  intro c s
  refine within_execute (fun s => hsteady _ _ (Statement.within_steady_assignment c s))
    (fun command _ => ?_) s
  by_cases hscript : command = .script
  · subst hscript
    exact Statement.within_script hr
  · exact (Statement.within_steady_perform runner hscript).mono hsteady

/-- **A line behind its entry of the journal** stays within a relation that what it does stays
within, if that allows for letting go of what the line held and for a report. -/
theorem within_behind_note (hdrop : ∀ s : Session, R s s.dropTemporaries)
    (hreport : ∀ (s : Session) line f, R s (s.report line f)) {line : String} {s : Session}
    (hline : R (s.note (.ran s.depth line)) ((Statement.execute runner).run (Cursor.ofLine line)
      (s.note (.ran s.depth line))).2) :
    R (s.note (.ran s.depth line)) (runLineWith runner line s).2 := by
  unfold runLineWith executeWith
  dsimp only
  rcases hx : (Statement.execute runner).run (Cursor.ofLine line) (s.note (.ran s.depth line))
    with ⟨⟨f | o, c⟩, t⟩
  · rw [hx] at hline
    exact Frame.trans hline (Frame.trans (hdrop t) (hreport _ line f))
  · rw [hx] at hline
    exact Frame.trans hline (hdrop t)

end Around

/-- A report is text on the error stream and an entry of the journal. -/
theorem report_eq (s : Session) (line : String) (f : Failure) :
    ∃ err, s.report line f = { s with
      err := { s.err with text := err }, journal := .reported line f :: s.journal } := by
  unfold report Sink.tryWrite
  cases hw : s.err.write (s.reportText line f) with
  | error why => exact ⟨s.err.text, rfl⟩
  | ok err =>
    obtain ⟨text, rfl⟩ := Sink.eq_of_write hw
    exact ⟨text, rfl⟩

namespace Scripted

variable {R : Session → Session → Prop} [TalkFrame R] {runner : ScriptRunner}

theorem within_runLines (h : Scripted R) (hr : ∀ source, Action.Within R (runner source))
    (lines : List ScriptLine) : Action.Within R (runLines runner lines) := by
  induction lines with
  | nil => exact Action.within_pure _
  | cons line rest ih =>
    unfold runLines
    refine Action.within_bind (Action.within_echo line) fun _ => ?_
    refine Action.within_bind (fun s => h.line runner hr line.text s) fun o => ?_
    split
    · exact ih
    · exact Action.within_pure _

theorem within_deeper {α : Type} {a : Action α} (h : Scripted R) (ha : Action.Within R a) :
    Action.Within R (deeper a) := by
  intro s
  rw [Action.run_deeper]
  exact Frame.trans (h.depth s _) (Frame.trans (ha _) (h.depth _ _))

theorem within_runScriptWithin (h : Scripted R) (levels : Nat) (source : String) :
    Action.Within R (runScriptWithin levels source) := by
  -- By the levels that are left, as everything about scripts.
  induction levels generalizing source with
  | zero => exact Action.within_raise _
  | succ levels ih => exact h.within_deeper (h.within_runLines ih _)

/-- **A script** stays within what its lines stay within. -/
theorem within_runScript (h : Scripted R) (source : String) : Action.Within R (runScript source) :=
  fun s => h.within_runScriptWithin (scriptDepthLimit - s.depth) source s

theorem runLine (h : Scripted R) (s : Session) (line : String) : R s (s.runLine line).2 :=
  h.line runScript h.within_runScript line s

theorem runScriptFile (h : Scripted R) (s : Session) (path : String) :
    R s (s.runScriptFile path).2 := by
  unfold Session.runScriptFile
  cases s.files.readText path with
  | error e => exact h.report s "" _
  | ok source =>
    have hrun := h.within_runScript source s
    dsimp only
    rcases hr : (DriverBench.runScript source).run.run s with ⟨f | o, s'⟩
    · rw [hr] at hrun
      exact Frame.trans hrun (h.report s' "" f)
    · rw [hr] at hrun
      exact hrun

end Scripted

end Session

end DriverBench
