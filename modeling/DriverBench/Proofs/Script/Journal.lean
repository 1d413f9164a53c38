import DriverBench.Proofs.Command.Execute
import DriverBench.Proofs.Script.Run
/-!
# One report for one failure

A failure is reported where it occurs, in the innermost line, and from there on it is an outcome
that the lines around it pass on; a script that cannot be run at all is a failure of the line that
asks for it. So whatever the scripts are, a run reports once if it fails and not at all if it does
not (`Tells`). The journal says so: it has one entry for every line that is run and one for every
report.
-/

namespace DriverBench

open Statement (command?)

/-- Whether a failure is reported. -/
def Event.isReport : Event → Bool
  | .reported _ _ => true
  | _ => false

/-- The number of failures that are reported. -/
def reports (events : List Event) : Nat :=
  events.countP Event.isReport

/-- **What happened, latest first, tells the outcome**: a failure is reported once, and nothing is
reported otherwise; and a run that ends all runs ends with a line that names `quit`. -/
structure Tells (events : List Event) (o : Outcome) : Prop where
  reports : reports events = if o = .fail then 1 else 0
  quit : o = .quit → ∃ depth line earlier, events = .ran depth line :: earlier ∧
    command? (Cursor.ofLine line) = some .quit

/-- What happened since tells the outcome. -/
def Session.Since (s : Session) (j : List Event) (o : Outcome) : Prop :=
  ∃ events, s.journal = events ++ j ∧ Tells events o

theorem Tells.fail_iff {events : List Event} {o : Outcome} (h : Tells events o) :
    o = .fail ↔ DriverBench.reports events = 1 := by
  rw [h.reports]
  cases o <;> simp

theorem Tells.ne_fail_iff {events : List Event} {o : Outcome} (h : Tells events o) :
    o = .good ∨ o = .quit ↔ DriverBench.reports events = 0 := by
  rw [h.reports]
  cases o <;> simp

/-- A report on top of a run that reported nothing. -/
theorem Tells.report {events : List Event} (h : Tells events .good) (line : String) (f : Failure) :
    Tells (.reported line f :: events) .fail := by
  have hnone : DriverBench.reports events = 0 := h.reports
  refine ⟨?_, nofun⟩
  change (Event.reported line f :: events).countP Event.isReport = 1
  rw [List.countP_cons_of_pos rfl]
  exact congrArg (· + 1) hnone

/-- A run behind a run that is all well. -/
theorem Tells.append {earlier later : List Event} {o : Outcome} (h : Tells later o)
    (he : Tells earlier .good) : Tells (later ++ earlier) o := by
  have hnone : DriverBench.reports earlier = 0 := he.reports
  refine ⟨?_, fun ho => ?_⟩
  · change (later ++ earlier).countP Event.isReport = _
    rw [List.countP_append]
    change DriverBench.reports later + DriverBench.reports earlier = _
    rw [hnone, h.reports, Nat.add_zero]
  · obtain ⟨depth, line, rest, rfl, hq⟩ := h.quit ho
    exact ⟨depth, line, rest ++ earlier, rfl, hq⟩

theorem tells_nil : Tells [] .good := ⟨rfl, nofun⟩

theorem tells_ran (depth : Nat) (line : String) : Tells [.ran depth line] .good := ⟨rfl, nofun⟩

theorem tells_quit (depth : Nat) {line : String} (h : command? (Cursor.ofLine line) = some .quit) :
    Tells [.ran depth line] .quit :=
  ⟨rfl, fun _ => ⟨depth, line, [], rfl, h⟩⟩

namespace Session

theorem since_of_journal_eq {s : Session} {j : List Event} (h : s.journal = j) : s.Since j .good :=
  ⟨[], h, tells_nil⟩

theorem Since.trans {s s' : Session} {j : List Event} {o : Outcome} (h : s.Since j .good)
    (h' : s'.Since s.journal o) : s'.Since j o := by
  obtain ⟨earlier, he, ht⟩ := h
  obtain ⟨later, hl, ht'⟩ := h'
  exact ⟨later ++ earlier, by rw [hl, he, List.append_assoc], ht'.append ht⟩

theorem Since.report {s : Session} {j : List Event} (h : s.Since j .good) (line : String)
    (f : Failure) : (s.report line f).Since j .fail := by
  obtain ⟨events, he, ht⟩ := h
  refine ⟨.reported line f :: events, ?_, ht.report line f⟩
  change Event.reported line f :: s.journal = _
  rw [he, List.cons_append]

end Session

/-! ## Lines -/

namespace Statement

open Reading
open Session (Steady Since)

/-- A way to run scripts whose journal tells the outcome, and that reports nothing when the script
as a whole fails. -/
def Journals (runner : ScriptRunner) : Prop :=
  ∀ (source : String) (j : List Event), Action.Ensures (fun s => s.journal = j) (runner source)
    (fun o s => s.Since j o) (fun s => s.Since j .good)

theorem ensures_steady {α : Type} {r : Reading α} (h : Within Steady r) (j : List Event) :
    Ensures (fun s => s.journal = j) r (fun _ s => s.journal = j) (fun s => s.Since j .good) :=
  (h.ensures (P := fun s => s.journal = j) fun _ _ hs hj => hs.journal.trans hj).mono
    (fun _ h => h) (fun _ _ h => h) fun _ h => Session.since_of_journal_eq h

theorem ensures_script_since {runner : ScriptRunner} (hr : Journals runner) (j : List Event) :
    Ensures (fun s => s.journal = j) (script runner) (fun o s => s.Since j o)
      (fun s => s.Since j .good) := by
  unfold script
  refine (ensures_steady within_pathArgument j).bind fun path => ?_
  refine (ensures_steady (within_warnTrailing _) j).bind fun _ => ?_
  refine (ensures_steady within_session j).bind fun s => ?_
  split
  · exact Ensures.raise fun _ h => Session.since_of_journal_eq h
  · exact Ensures.liftM ((hr _ j).atSpan _)

/-- A line reports nothing itself. What happens while it is executed happens in the script that it
asks for, if it does. -/
theorem journal_of_execute {runner : ScriptRunner} (hr : Journals runner) {line : String}
    {s s' : Session} {a : Except Failure Outcome} {c : Cursor}
    (h : (execute runner).run (Cursor.ofLine line) s = ((a, c), s')) :
    s'.journal = s.journal ∧ (∀ o, a = .ok o →
      o = .good ∨ o = .quit ∧ command? (Cursor.ofLine line) = some .quit) ∨
    command? (Cursor.ofLine line) = some .script ∧
      match a with
      | .ok o => s'.Since s.journal o
      | .error _ => s'.Since s.journal .good := by
  rcases execute_cases runner (Cursor.ofLine line) with hx | ⟨f, c', hx⟩ | hx | ⟨command, hn, hx⟩
  · rw [hx] at h
    cases h
    exact .inl ⟨rfl, fun o ho => .inl (Except.ok.inj ho).symm⟩
  · rw [hx] at h
    cases h
    exact .inl ⟨rfl, nofun⟩
  · have hsteady := within_steady_assignment (Cursor.ofLine line) s
    have hgood := answers_assignment (Cursor.ofLine line) s trivial
    rw [hx] at h
    rw [h] at hsteady hgood
    refine .inl ⟨hsteady.journal, ?_⟩
    rintro o rfl
    exact .inl hgood
  · -- No command but `script` runs further lines, so no other adds to the journal.
    by_cases hscript : command = .script
    · subst hscript
      have hsince := ensures_script_since hr s.journal (Cursor.ofLine line).advance s rfl
      rw [hx] at h
      refine .inr ⟨hn, ?_⟩
      change (script runner).run _ _ = _ at h
      rw [h] at hsince
      cases a <;> exact hsince
    · have hsteady := within_steady_perform runner hscript (Cursor.ofLine line).advance s
      have hanswer := answers_perform runner hscript (Cursor.ofLine line).advance s trivial
      rw [hx] at h
      rw [h] at hsteady hanswer
      refine .inl ⟨hsteady.journal, ?_⟩
      rintro o rfl
      have ho : o = if command = .quit then .quit else .good := hanswer
      by_cases hquit : command = .quit
      · rw [if_pos hquit] at ho
        exact .inr ⟨ho, hquit ▸ hn⟩
      · rw [if_neg hquit] at ho
        exact .inl ho

end Statement

namespace Session

open Statement (Journals)

/-- **A line tells its outcome.** Further lines are run only in the scripts that a line asks for. -/
theorem journal_of_runLineWith {runner : ScriptRunner} (hr : Journals runner) (line : String)
    (s : Session) :
    ∃ inner, (runLineWith runner line s).2.journal = inner ++ .ran s.depth line :: s.journal ∧
      Tells (inner ++ [.ran s.depth line]) (runLineWith runner line s).1 ∧
      (command? (Cursor.ofLine line) ≠ some .script → ∀ depth l, .ran depth l ∉ inner) := by
  rcases hrun : (Statement.execute runner).run (Cursor.ofLine line)
    (s.note (.ran s.depth line)) with ⟨⟨a, c⟩, s'⟩
  have hdrop : s'.dropTemporaries.journal = s'.journal := (steady_dropTemporaries s').journal
  unfold runLineWith executeWith
  dsimp only
  rw [hrun]
  rcases Statement.journal_of_execute hr hrun with ⟨hj, ha⟩ | ⟨hscript, ha⟩
  · cases a with
    | ok o =>
      refine ⟨[], hdrop.trans hj, ?_, by simp⟩
      rcases ha o rfl with rfl | ⟨rfl, hq⟩
      · exact tells_ran s.depth line
      · exact tells_quit s.depth hq
    | error f =>
      refine ⟨[.reported line f], congrArg (_ :: ·) (hdrop.trans hj), ?_, by simp⟩
      exact (tells_ran s.depth line).report line f
  · cases a with
    | ok o =>
      obtain ⟨inner, hi, ht⟩ := ha
      exact ⟨inner, hdrop.trans hi, ht.append (tells_ran s.depth line), fun h => absurd hscript h⟩
    | error f =>
      -- The script failed as a whole and reported nothing, so this line reports.
      obtain ⟨inner, hi, ht⟩ := ha
      refine ⟨.reported line f :: inner, congrArg (_ :: ·) (hdrop.trans hi), ?_,
        fun h => absurd hscript h⟩
      exact (ht.append (tells_ran s.depth line)).report line f

theorem since_runLineWith {runner : ScriptRunner} (hr : Journals runner) (line : String)
    (s : Session) :
    (runLineWith runner line s).2.Since s.journal (runLineWith runner line s).1 := by
  obtain ⟨inner, hi, ht, -⟩ := journal_of_runLineWith hr line s
  exact ⟨inner ++ [.ran s.depth line], by rw [hi, List.append_assoc]; rfl, ht⟩

end Session

/-! ## Scripts -/

namespace Statement

open Session (Since)

theorem journals_runLines {runner : ScriptRunner} (hr : Journals runner) (lines : List ScriptLine)
    (j : List Event) :
    Action.Ensures (fun s => s.journal = j) (runLines runner lines) (fun o s => s.Since j o)
      (fun s => s.Since j .good) := by
  induction lines generalizing j with
  | nil => exact Action.Ensures.pure fun _ h => Session.since_of_journal_eq h
  | cons line rest ih =>
    have hecho : Action.Ensures (fun s => s.journal = j) (echo line) (fun _ s => s.journal = j)
        (fun s => s.Since j .good) :=
      ((Action.within_echo line (R := Session.Steady)).ensures (P := fun s => s.journal = j)
        fun _ _ hs hj => hs.journal.trans hj).mono (fun _ h => h) (fun _ _ h => h)
          fun _ h => Session.since_of_journal_eq h
    unfold runLines
    refine hecho.bind fun _ => ?_
    refine Action.Ensures.bind (Q := fun o s => s.Since j o) (Action.Ensures.modifyGet ?_)
      fun outcome => ?_
    · rintro s rfl
      exact Session.since_runLineWith hr line.text s
    · -- The lines behind a good one start from the journal that it left.
      cases outcome with
      | good =>
        intro s hs
        have hrest := ih s.journal s rfl
        rcases hx : (runLines runner rest).run.run s with ⟨f | o, s'⟩
        · rw [hx] at hrest
          exact hs.trans hrest
        · rw [hx] at hrest
          exact hs.trans hrest
      | fail => exact Action.Ensures.pure fun _ h => h
      | quit => exact Action.Ensures.pure fun _ h => h

/-- Scripts tell their outcome, however deep they go. -/
theorem journals_runScriptWithin (levels : Nat) : Journals (runScriptWithin levels) := by
  -- By the levels that are left: at the last one a script is refused before any line is run.
  induction levels with
  | zero => exact fun _ _ => Action.Ensures.raise fun _ h => Session.since_of_journal_eq h
  | succ levels ih =>
    intro source j
    exact (journals_runLines ih _ j).deeper (fun _ _ h => h) (fun _ _ _ h => h) fun _ _ h => h

theorem journals_runScript : Journals runScript := fun source j s hs =>
  journals_runScriptWithin (scriptDepthLimit - s.depth) source j s hs

end Statement

namespace Session

open Statement (journals_runScript)

theorem since_runScriptFile (s : Session) (path : String) :
    (s.runScriptFile path).2.Since s.journal (s.runScriptFile path).1 := by
  have hrefl : s.Since s.journal .good := since_of_journal_eq rfl
  unfold runScriptFile
  cases s.files.readText path with
  | error e => exact hrefl.report _ _
  | ok source =>
    have hsince := journals_runScript source s.journal s rfl
    dsimp only
    rcases hr : (runScript source).run.run s with ⟨f | o, s'⟩
    · rw [hr] at hsince
      exact Since.report hsince _ _
    · rw [hr] at hsince
      exact hsince

/-- **One report for one failure.** Whatever the session and the files are, a line and a script from
a file fail if and only if just one failure is reported on the way, in the scripts inside as well,
and come to something else if and only if none is. Where no further line is to be run, the last line
that was run names `quit`; it is the line itself unless that line names `script`. -/
theorem reports_eq_one_iff_fail (s : Session) :
    (∀ line, ∃ inner,
      (s.runLine line).2.journal = inner ++ .ran s.depth line :: s.journal ∧
      ((s.runLine line).1 = .fail ↔ reports (inner ++ [.ran s.depth line]) = 1) ∧
      ((s.runLine line).1 = .good ∨ (s.runLine line).1 = .quit ↔
        reports (inner ++ [.ran s.depth line]) = 0) ∧
      ((s.runLine line).1 = .quit → ∃ depth last earlier,
        inner ++ [.ran s.depth line] = .ran depth last :: earlier ∧
        command? (Cursor.ofLine last) = some .quit) ∧
      (command? (Cursor.ofLine line) ≠ some .script → ∀ depth l, .ran depth l ∉ inner)) ∧
    ∀ path, ∃ events,
      (s.runScriptFile path).2.journal = events ++ s.journal ∧
      ((s.runScriptFile path).1 = .fail ↔ reports events = 1) ∧
      ((s.runScriptFile path).1 = .good ∨ (s.runScriptFile path).1 = .quit ↔ reports events = 0) ∧
      ((s.runScriptFile path).1 = .quit → ∃ depth last earlier,
        events = .ran depth last :: earlier ∧ command? (Cursor.ofLine last) = some .quit) := by
  refine ⟨fun line => ?_, fun path => ?_⟩
  · obtain ⟨inner, hi, ht, hn⟩ := journal_of_runLineWith journals_runScript line s
    exact ⟨inner, hi, ht.fail_iff, ht.ne_fail_iff, ht.quit, hn⟩
  · obtain ⟨events, he, ht⟩ := since_runScriptFile s path
    exact ⟨events, he, ht.fail_iff, ht.ne_fail_iff, ht.quit⟩

end Session

end DriverBench
