import DriverBench.Proofs.Script.Journal
import DriverBench.Proofs.Script.Within
import DriverBench.Proofs.Session.Switch
/-!
# A run as a sequence of lines

Scripts run scripts, but what is done is done by lines that are no scripts themselves, one after the
other. Every run comes apart into these lines (`traced_runLine`): each of them starts from the
session that the one before it left, but for the depth of scripts, for text on the streams and for
the journal. The journal says which lines they are.
-/

namespace DriverBench

open Statement (command?)

/-- A line that was run, and the session that it was run in. -/
structure Executed where
  line : String
  before : Session

namespace Executed

/-- What a line came to. -/
def outcome (r : Executed) : Outcome :=
  (r.before.runLine r.line).1

/-- The session behind a line. -/
def after (r : Executed) : Session :=
  (r.before.runLine r.line).2

end Executed

namespace Session

/-- **A run**, taken apart into the lines in it that are no scripts. Between them scripts begin and
end, lines are echoed, and failures are reported. -/
inductive Runs : Session → List Executed → Session → Prop
  | done (s : Session) : Runs s [] s
  | line {s s' : Session} {line : String} {later : List Executed} :
      command? (Cursor.ofLine line) ≠ some .script → Runs (s.runLine line).2 later s' →
      Runs s (⟨line, s⟩ :: later) s'
  | around {s s' : Session} {later : List Executed} (depth : Nat) (out err : String)
      (journal : List Event) :
      Runs { s with
        depth, out := { s.out with text := out }, err := { s.err with text := err }, journal }
        later s' →
      Runs s later s'
  | drop {s s' : Session} {later : List Executed} : Runs s.dropTemporaries later s' →
      Runs s later s'

/-- The lines of a journal that are no scripts, in the order in which they were run. -/
def plainLines (events : List Event) : List String :=
  events.reverse.filterMap fun
    | .ran _ line => if command? (Cursor.ofLine line) = some .script then none else some line
    | _ => none

/-- What led from one session to another is a run, and the journal has its lines. -/
def Traced (s s' : Session) : Prop :=
  ∃ rs events, s.Runs rs s' ∧ s'.journal = events ++ s.journal ∧
    rs.map (·.line) = plainLines events

variable {s s' s'' : Session} {rs later : List Executed}

theorem Runs.append (h : s.Runs rs s') (h' : s'.Runs later s'') : s.Runs (rs ++ later) s'' := by
  induction h with
  | done s => exact h'
  | line hline _ ih => exact .line hline (ih h')
  | around depth out err journal _ ih => exact .around depth out err journal (ih h')
  | drop _ ih => exact .drop (ih h')

/-- A run goes on behind each of its lines. -/
theorem Runs.of_append {r : Executed} {earlier : List Executed}
    (h : s.Runs (earlier ++ r :: later) s') : r.after.Runs later s' := by
  generalize hrs : earlier ++ r :: later = rs at h
  induction h generalizing earlier with
  | done s => simp at hrs
  | @line s s' line rest hline hrest ih =>
    cases earlier with
    | nil =>
      obtain ⟨rfl, rfl⟩ := List.cons.inj hrs
      exact hrest
    | cons first earlier => exact ih (List.cons.inj hrs).2
  | around depth out err journal _ ih => exact ih hrs
  | drop _ ih => exact ih hrs

theorem plainLines_append (later earlier : List Event) :
    plainLines (later ++ earlier) = plainLines earlier ++ plainLines later := by
  rw [plainLines, List.reverse_append, List.filterMap_append]
  rfl

/-- What is no line leaves no trace. -/
theorem plainLines_eq_nil {j : List Event} (h : ∀ depth line, .ran depth line ∉ j) :
    plainLines j = [] := by
  refine List.filterMap_eq_nil_iff.2 fun e he => ?_
  cases e with
  | ran depth line => exact absurd (List.mem_reverse.1 he) (h depth line)
  | _ => rfl

/-- A change of the depth and of the text on the streams, with events that are no lines. -/
theorem traced_around {j : List Event} (hj : plainLines j = []) (s : Session)
    (depth : Nat) (out err : String) :
    s.Traced { s with
      depth, out := { s.out with text := out }, err := { s.err with text := err },
      journal := j ++ s.journal } :=
  ⟨[], j, .around depth out err _ (.done _), rfl, hj.symm⟩

instance : TalkFrame Traced where
  refl s := ⟨[], [], .done s, rfl, rfl⟩
  trans := by
    rintro a b c ⟨rs, earlier, hrun, hj, hlines⟩ ⟨rs', later, hrun', hj', hlines'⟩
    refine ⟨rs ++ rs', later ++ earlier, hrun.append hrun', by rw [hj', hj, List.append_assoc], ?_⟩
    rw [List.map_append, plainLines_append, hlines, hlines']
  of_talks := by
    rintro s _ ⟨out, err, rfl⟩
    exact traced_around (j := []) rfl s s.depth out err

theorem traced_dropTemporaries (s : Session) : s.Traced s.dropTemporaries :=
  ⟨[], [], .drop (.done _), (steady_dropTemporaries s).journal, rfl⟩

theorem traced_report (s : Session) (line : String) (f : Failure) : s.Traced (s.report line f) := by
  obtain ⟨err, heq⟩ := s.report_eq line f
  rw [heq]
  exact traced_around (j := [.reported line f]) rfl s s.depth s.out.text err

end Session

open Session (Traced Runs)

variable {runner : ScriptRunner}

namespace Statement

open Reading

/-- What a line does that is no script does not depend on how scripts are run. -/
theorem run_execute_of_ne_script (runner : ScriptRunner) {c : Cursor}
    (h : command? c ≠ some .script) (s : Session) :
    (execute runner).run c s = (execute runScript).run c s := by
  cases hname : command? c with
  | some command =>
    rw [run_execute_of_command runner hname, run_execute_of_command runScript hname]
    cases command <;> first | rfl | exact absurd hname h
  | none =>
    have hcursor : cursor.run c s = ((.ok c, c), s) := rfl
    by_cases hf : c.current.kind = .finish
    · unfold execute
      rw [run_bind, run_bind, hcursor]
      dsimp only
      rw [hf]
    by_cases hi : c.current.kind = .invalid
    · unfold execute
      rw [run_bind, run_bind, hcursor]
      dsimp only
      rw [hi]
    rw [run_execute_of_valid runner hf hi, run_execute_of_valid runScript hf hi]
    by_cases heq : c.next.kind = .equal
    · rw [if_pos heq, if_pos heq]
    -- The first token names no command, so nothing is performed.
    rw [if_neg heq, if_neg heq, run_bind, run_bind, run_commandName]
    cases hchoice : Text.choose c.current.text Command.name Command.all with
    | one command =>
      unfold command? at hname
      rw [if_neg heq, hchoice] at hname
      split at hname <;> contradiction
    | several => rfl
    | none => rfl

end Statement

namespace Session

theorem runLineWith_of_ne_script {line : String} (h : command? (Cursor.ofLine line) ≠ some .script)
    (s : Session) : runLineWith runner line s = s.runLine line := by
  unfold runLine runLineWith executeWith
  dsimp only
  rw [Statement.run_execute_of_ne_script runner h]

/-- A line that names a command is what the command does, with an entry for the line in front and
perhaps a report behind. -/
theorem runLineWith_of_command {line : String} {command : Command}
    (h : command? (Cursor.ofLine line) = some command) (s : Session) :
    runLineWith runner line s =
      match (Statement.perform runner command).run (Cursor.ofLine line).advance
        (s.note (.ran s.depth line)) with
      | ((.ok outcome, _), t) => (outcome, t.dropTemporaries)
      | ((.error f, _), t) => (.fail, t.dropTemporaries.report line f) := by
  unfold runLineWith executeWith
  dsimp only
  rw [Statement.run_execute_of_command runner h]
  rcases (Statement.perform runner command).run (Cursor.ofLine line).advance
    (s.note (.ran s.depth line)) with ⟨⟨f | o, c⟩, t⟩ <;> rfl

/-- A line that is a script is the run of that script. -/
theorem runLineWith_of_script {line : String} (h : command? (Cursor.ofLine line) = some .script)
    (s : Session) :
    runLineWith runner line s =
      match (Statement.script runner).run (Cursor.ofLine line).advance
        (s.note (.ran s.depth line)) with
      | ((.ok outcome, _), t) => (outcome, t.dropTemporaries)
      | ((.error f, _), t) => (.fail, t.dropTemporaries.report line f) :=
  runLineWith_of_command h s

theorem traced_of_script (hr : ∀ source, Action.Within Traced (runner source)) {line : String}
    (h : command? (Cursor.ofLine line) = some .script) (s : Session) :
    s.Traced (runLineWith runner line s).2 := by
  have hplain : plainLines [.ran s.depth line] = [] := by
    simp [plainLines, h]
  have hnote : s.Traced (s.note (.ran s.depth line)) :=
    traced_around hplain s s.depth s.out.text s.err.text
  refine Frame.trans hnote (within_behind_note traced_dropTemporaries traced_report ?_)
  rw [Statement.run_execute_of_command runner h]
  exact Statement.within_script hr _ _

theorem traced_runLineWith (hr : ∀ source, Action.Within Traced (runner source)) (line : String)
    (s : Session) : s.Traced (runLineWith runner line s).2 := by
  by_cases h : command? (Cursor.ofLine line) = some .script
  · exact traced_of_script hr h s
  · obtain ⟨inner, hj, -, hplain⟩ :=
      journal_of_runLineWith Statement.journals_runScript line s
    rw [runLineWith_of_ne_script h]
    refine ⟨[⟨line, s⟩], inner ++ [.ran s.depth line], .line h (.done _), ?_, ?_⟩
    · rw [List.append_assoc]
      exact hj
    · have hline : plainLines [.ran s.depth line] = [line] := by simp [plainLines, h]
      rw [plainLines_append, plainLines_eq_nil (hplain h), hline]
      rfl

/-- Runs are what lines and scripts come apart into. -/
theorem scripted_traced : Scripted Traced where
  line _ hr := traced_runLineWith hr
  depth s depth := traced_around (j := []) rfl s depth s.out.text s.err.text
  report := traced_report

theorem within_traced_runScript (source : String) : Action.Within Traced (runScript source) :=
  scripted_traced.within_runScript source

/-- **A line** comes apart into the lines that are run for it. -/
theorem traced_runLine (s : Session) (line : String) : s.Traced (s.runLine line).2 :=
  scripted_traced.runLine s line

theorem traced_runScriptFile (s : Session) (path : String) :
    s.Traced (s.runScriptFile path).2 :=
  scripted_traced.runScriptFile s path

/-- Lines that are run one after the other, with the sessions that they are run in. -/
def executed (s : Session) : List String → List Executed
  | [] => []
  | line :: rest => ⟨line, s⟩ :: (s.runLine line).2.executed rest

/-- Lines that are no scripts are a run of their own. -/
theorem runs_executed (s : Session) {lines : List String}
    (h : ∀ line ∈ lines, command? (Cursor.ofLine line) ≠ some .script) :
    s.Runs (s.executed lines) (lines.foldl (fun s line => (s.runLine line).2) s) := by
  induction lines generalizing s with
  | nil => exact .done s
  | cons line rest ih =>
    obtain ⟨hline, hrest⟩ := List.forall_mem_cons.1 h
    exact .line hline (ih _ hrest)

/-! ## What holds along a run -/

/-- A run leads from sessions that lines lead to on to such sessions. -/
theorem Runs.reached {s s' : Session} {rs : List Executed} (h : s.Runs rs s') (hs : s.Reached) :
    s'.Reached ∧ ∀ r ∈ rs, r.before.Reached := by
  induction h with
  | done s => exact ⟨hs, nofun⟩
  | @line s s' line later _ _ ih =>
    obtain ⟨hs', hlater⟩ := ih (hs.runLine line)
    exact ⟨hs', List.forall_mem_cons.2 ⟨hs, hlater⟩⟩
  | @around s s' later depth out err journal _ ih =>
    exact ih (hs.around s.options depth { s.out with text := out } { s.err with text := err }
      s.files s.codec journal)
  | drop _ ih =>
    rw [dropTemporaries_of_nil hs.idle.temporaries] at ih
    exact ih hs

theorem Runs.ne_script {s s' : Session} {rs : List Executed} (h : s.Runs rs s') :
    ∀ r ∈ rs, command? (Cursor.ofLine r.line) ≠ some .script := by
  induction h with
  | done s => exact nofun
  | line hline _ ih => exact List.forall_mem_cons.2 ⟨hline, ih⟩
  | around _ _ _ _ _ ih => exact ih
  | drop _ ih => exact ih

/-- **What each line keeps a run keeps**, if it is no matter of the depth, of the streams, of the
journal and of what a line holds. -/
theorem Runs.keeps {P : Session → Prop} {s s' : Session} {rs : List Executed} (h : s.Runs rs s')
    (hline : ∀ r ∈ rs, P r.before → P r.after)
    (haround : ∀ (s : Session) depth out err journal, P s → P { s with
      depth, out := { s.out with text := out }, err := { s.err with text := err }, journal })
    (hdrop : ∀ s : Session, P s → P s.dropTemporaries) (hs : P s) : P s' := by
  induction h with
  | done s => exact hs
  | line _ _ ih =>
    obtain ⟨hfirst, hlater⟩ := List.forall_mem_cons.1 hline
    exact ih hlater (hfirst hs)
  | around depth out err journal _ ih => exact ih hline (haround _ depth out err journal hs)
  | drop _ ih => exact ih hline (hdrop _ hs)

end Session

end DriverBench
