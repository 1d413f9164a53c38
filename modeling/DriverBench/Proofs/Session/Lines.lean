import DriverBench.Proofs.Command.Within
import DriverBench.Proofs.Script.Within
import DriverBench.Proofs.Session.Failure
/-!
# What every line preserves

A line does what its command or its assignment does, and what it held is dropped behind it. So a
relation between sessions that allows for each of these (`Session.Lines`) is one that every line
stays within, scripts included; and what it preserves holds of every session that lines lead to
(`Reached.preserves`).
-/

namespace DriverBench

namespace Session

/-- What a relation between sessions has to allow for commands and assignments, for reading and for
what stands around a line. -/
structure Lines (R : Session → Session → Prop) : Prop where
  spares : ∀ s s', Spares s s' → R s s'
  assignment : ∀ line s, R s (Statement.assignment.run (Cursor.ofLine line) s).2
  allows : ∀ c, Allows R c
  journal : ∀ (s : Session) journal, R s { s with journal }
  depth : ∀ (s : Session) depth, R s { s with depth }

theorem Lines.reads {R : Session → Session → Prop} (h : Lines R) (s s' : Session)
    (hreads : s.Reads s') : R s s' :=
  h.spares s s' hreads.toSpares

/-! ## What stands around a line -/

section Around

variable {R : Session → Session → Prop} [TalkFrame R] {runner : ScriptRunner}

theorem within_report (hjournal : ∀ (s : Session) journal, R s { s with journal }) (s : Session)
    (line : String) (f : Failure) : R s (s.report line f) := by
  obtain ⟨err, heq⟩ := s.report_eq line f
  rw [heq]
  exact Frame.trans (TalkFrame.of_talks _ _ ⟨s.out.text, err, rfl⟩)
    (hjournal { s with err := { s.err with text := err } } _)

theorem within_executeWith (hreads : ∀ s s', Reads s s' → R s s') {line : String}
    (hline : ∀ s, R s ((Statement.execute runner).run (Cursor.ofLine line) s).2) (s : Session) :
    R s (executeWith runner line s).2 :=
  Frame.trans (hline s) (hreads _ _ (reads_dropTemporaries _))

/-- **A line stays within a relation** that what it does stays within, if that allows for reading
and for the journal. -/
theorem within_runLineWith (hreads : ∀ s s', Reads s s' → R s s')
    (hjournal : ∀ (s : Session) journal, R s { s with journal }) {line : String}
    (hline : ∀ s, R s ((Statement.execute runner).run (Cursor.ofLine line) s).2) (s : Session) :
    R s (runLineWith runner line s).2 :=
  Frame.trans (hjournal s (.ran s.depth line :: s.journal))
    (within_behind_note (fun s => hreads _ _ (reads_dropTemporaries s)) (within_report hjournal)
      (hline _))

end Around

namespace Lines

variable {R : Session → Session → Prop} [TalkFrame R] {runner : ScriptRunner}

theorem run_execute (h : Lines R) (hr : ∀ source, Action.Within R (runner source)) (line : String)
    (s : Session) : R s ((Statement.execute runner).run (Cursor.ofLine line) s).2 := by
  refine within_execute (h.assignment line) (fun command _ => ?_) s
  by_cases hscript : command = .script
  · subst hscript
    exact Statement.within_script hr
  · exact Statement.within_perform h.spares runner hscript (h.allows command)

/-- **Every line and every script** stays within what commands and assignments stay within. -/
theorem scripted (h : Lines R) : Scripted R where
  line _ hr line := within_runLineWith h.reads h.journal (h.run_execute hr line)
  depth := h.depth
  report := within_report h.journal

theorem execute (h : Lines R) (s : Session) (line : String) : R s (s.execute line).2 :=
  within_executeWith h.reads (h.run_execute h.scripted.within_runScript line) s

end Lines

/-! ## Sessions that lines lead to -/

/-- What holds of a session goes on to hold. -/
def Preserves (P : Session → Prop) (s s' : Session) : Prop :=
  P s → P s'

/-- **What lines preserve** holds of every session that they lead to, if it holds of a fresh one and
is a matter of the bindings and the drivers only. -/
theorem Reached.preserves {P : Session → Prop} [TalkFrame (Preserves P)]
    (h : Lines (Preserves P)) (hfresh : ∀ codec, P { codec })
    (haround : ∀ (s : Session) options depth out err files codec journal, P s →
      P { s with options, depth, out, err, files, codec, journal }) {s : Session}
    (hs : s.Reached) : P s := by
  have hevaluate : ∀ (s : Session) line, P s → P (s.evaluate line).2 := fun s line =>
    h.spares _ _ (Reading.within_evaluate (Cursor.ofLine line) s).toSpares
  induction hs with
  | fresh codec => exact hfresh codec
  | setDriver _ ih => exact h.allows .load _ ih
  | runLine line _ ih => exact h.scripted.runLine _ line ih
  | execute line _ ih => exact h.execute _ line ih
  | runScript source _ ih => exact h.scripted.within_runScript source _ ih
  | runScriptFile path _ ih => exact h.scripted.runScriptFile _ path ih
  | @evaluated s s' line e c _ heq ih =>
    have hs' := hevaluate s line ih
    rw [heq] at hs'
    exact h.spares _ _ (builds_letGo s' [e]).toSpares hs'
  | @notEvaluated s s' line f c _ heq ih =>
    have hs' := hevaluate s line ih
    rw [heq] at hs'
    exact hs'
  | around options depth out err files codec journal _ ih =>
    exact haround _ options depth out err files codec journal ih

end Session

end DriverBench
