import DriverBench.Proofs.Script.Even
import DriverBench.Proofs.Script.Trace
/-!
# Two runs, line by line

A run comes apart into the lines in it that are no scripts. Two runs of the same from near sessions
come apart into the same lines, and each of these lines comes to the same in both, however deep in
scripts it stands (`Session.Beside`). The journals of both runs say which lines these are.
-/

namespace DriverBench

open Session (Near Idle)
open Statement (RunsEven KeepsIdle command?)

/-- What a line was, and what it came to. -/
def Executed.result (r : Executed) : String × Outcome :=
  (r.line, r.outcome)

namespace Session

/-- **Two runs side by side**, from one pair of sessions to another: they come apart into the same
lines that are no scripts, which are those that the journals got, and each of these lines comes to
the same outcome in both. -/
def Beside (s s' t t' : Session) : Prop :=
  ∃ rs rs' events, s.Runs rs t ∧ s'.Runs rs' t' ∧ t.journal = events ++ s.journal ∧
    t'.journal = events ++ s'.journal ∧ rs.map (·.line) = plainLines events ∧
    rs'.map (·.result) = rs.map (·.result)

variable {s s' t t' u u' : Session}

theorem Beside.trans (h : Beside s s' t t') (h' : Beside t t' u u') : Beside s s' u u' := by
  obtain ⟨rs, rs', earlier, hrun, hrun', hj, hj', hlines, hsame⟩ := h
  obtain ⟨qs, qs', later, hgo, hgo', hk, hk', hlines', hsame'⟩ := h'
  refine ⟨rs ++ qs, rs' ++ qs', later ++ earlier, hrun.append hgo, hrun'.append hgo',
    ?_, ?_, ?_, ?_⟩
  · rw [hk, hj, List.append_assoc]
  · rw [hk', hj', List.append_assoc]
  · rw [List.map_append, plainLines_append, hlines, hlines']
  · rw [List.map_append, List.map_append, hsame, hsame']

/-- What is no line, on both sides. -/
theorem beside_of_nil (events : List Event) (h : s.Runs [] t) (h' : s'.Runs [] t')
    (hj : t.journal = events ++ s.journal) (hj' : t'.journal = events ++ s'.journal)
    (hplain : plainLines events = []) : Beside s s' t t' :=
  ⟨[], [], events, h, h', hj, hj', hplain.symm, rfl⟩

theorem beside_refl (s s' : Session) : Beside s s' s s' :=
  beside_of_nil [] (.done s) (.done s') rfl rfl rfl

theorem beside_of_talks (h : s.Talks t) (h' : s'.Talks t') : Beside s s' t t' := by
  obtain ⟨out, err, rfl⟩ := h
  obtain ⟨out', err', rfl⟩ := h'
  exact beside_of_nil [] (.around s.depth out err s.journal (.done _))
    (.around s'.depth out' err' s'.journal (.done _)) rfl rfl rfl

theorem beside_withDepth (s s' : Session) (n n' : Nat) :
    Beside s s' { s with depth := n } { s' with depth := n' } :=
  beside_of_nil [] (.around n s.out.text s.err.text s.journal (.done _))
    (.around n' s'.out.text s'.err.text s'.journal (.done _)) rfl rfl rfl

theorem beside_dropTemporaries (s s' : Session) :
    Beside s s' s.dropTemporaries s'.dropTemporaries :=
  beside_of_nil [] (.drop (.done _)) (.drop (.done _))
    (steady_dropTemporaries s).journal (steady_dropTemporaries s').journal rfl

theorem beside_note (s s' : Session) {e : Event} (he : plainLines [e] = []) :
    Beside s s' (s.note e) (s'.note e) :=
  beside_of_nil [e] (.around s.depth s.out.text s.err.text _ (.done _))
    (.around s'.depth s'.out.text s'.err.text _ (.done _)) rfl rfl he

theorem beside_report (s s' : Session) (line : String) (f : Failure) :
    Beside s s' (s.report line f) (s'.report line f) := by
  obtain ⟨err, heq⟩ := s.report_eq line f
  obtain ⟨err', heq'⟩ := s'.report_eq line f
  rw [heq, heq']
  exact beside_of_nil [.reported line f]
    (.around s.depth s.out.text err _ (.done _)) (.around s'.depth s'.out.text err' _ (.done _))
    rfl rfl rfl

/-- One line that is no script. -/
theorem Near.beside_runLine (h : s.Near s') (hi : s.Idle) (hi' : s'.Idle) {line : String}
    (hline : command? (Cursor.ofLine line) ≠ some .script) :
    Beside s s' (s.runLine line).2 (s'.runLine line).2 := by
  obtain ⟨houtcome, hnear⟩ := h.runLine hi hi' line
  obtain ⟨inner, hj, -, hplain⟩ := journal_of_runLineWith Statement.journals_runScript line s
  have hlast : plainLines [.ran s.depth line] = [line] := by simp [plainLines, hline]
  have hevents : (s.runLine line).2.journal = (inner ++ [.ran s.depth line]) ++ s.journal := by
    rw [List.append_assoc]
    exact hj
  refine ⟨[⟨line, s⟩], [⟨line, s'⟩], inner ++ [.ran s.depth line], .line hline (.done _),
    .line hline (.done _), hevents, ?_, ?_, ?_⟩
  · rw [hnear.journal, hevents, h.journal]
  · rw [plainLines_append, plainLines_eq_nil (hplain hline), hlast]
    rfl
  · exact congrArg (fun o => [(line, o)]) houtcome

end Session

open Session (Beside)

/-! ## What scripts are made of -/

namespace Action

variable {α β : Type}

/-- From near sessions between two lines an action is two runs side by side. -/
def LineByLine (a : Action α) : Prop :=
  ∀ s s', s.Near s' → s.Idle → s'.Idle → Beside s s' (a.run.run s).2 (a.run.run s').2

theorem lineByLine_of_talks {a : Action α} (h : Within Session.Talks a) : LineByLine a :=
  fun s s' _ _ _ => Session.beside_of_talks (h s) (h s')

theorem lineByLine_bind {a : Action α} {f : α → Action β} (h : LineByLine a)
    (he : EvenFrom Near Idle a) (hu : Ensures Idle a (fun _ => Idle) Idle)
    (hf : ∀ x, LineByLine (f x)) : LineByLine (a >>= f) := by
  intro s s' hs hi hi'
  have hb := h s s' hs hi hi'
  have hidle := hu s hi
  have hidle' := hu s' hi'
  rw [run_bind, run_bind]
  rcases hr : a.run.run s with ⟨e | x, t⟩ <;>
    obtain ⟨t', hr', hnear⟩ := Parallel.run_eq he hs hi hi' hr <;>
    rw [hr, hr'] at hb <;> rw [hr']
  · exact hb
  · rw [hr] at hidle
    rw [hr'] at hidle'
    exact hb.trans (hf x t t' hnear hidle hidle')

theorem LineByLine.deeper {a : Action α} (h : LineByLine a) : LineByLine (deeper a) := by
  intro s s' hs hi hi'
  have hdeep := hs.withDepth (congrArg (· + 1) hs.depth)
  rw [run_deeper, run_deeper]
  exact (Session.beside_withDepth s s' _ _).trans
    ((h _ _ hdeep (hi.withDepth _) (hi'.withDepth _)).trans (Session.beside_withDepth _ _ _ _))

theorem LineByLine.atSpan {a : Action α} (h : LineByLine a) (span : Span) :
    LineByLine (a.atSpan span) := by
  have hstate : ∀ s, ((a.atSpan span).run.run s).2 = (a.run.run s).2 := by
    intro s
    rw [run_atSpan]
    rcases a.run.run s with ⟨f | x, t⟩ <;> rfl
  intro s s' hs hi hi'
  rw [hstate, hstate]
  exact h s s' hs hi hi'

end Action

namespace Reading

variable {α β : Type}

/-- From near sessions between two lines a reading is two runs side by side. -/
def LineByLine (r : Reading α) : Prop :=
  ∀ c s s', s.Near s' → s.Idle → s'.Idle → Beside s s' (r.run c s).2 (r.run c s').2

theorem lineByLine_of_talks {r : Reading α} (h : Within Session.Talks r) : LineByLine r :=
  fun c s s' _ _ _ => Session.beside_of_talks (h c s) (h c s')

theorem lineByLine_bind {r : Reading α} {f : α → Reading β} (h : LineByLine r)
    (he : Even Near r) (hk : Within Session.Keeps r) (hf : ∀ a, LineByLine (f a)) :
    LineByLine (r >>= f) := by
  intro c s s' hs hi hi'
  have hb := h c s s' hs hi hi'
  have hkeeps := hk c s
  have hkeeps' := hk c s'
  rw [run_bind, run_bind]
  rcases hr : r.run c s with ⟨⟨e | a, d⟩, t⟩ <;>
    obtain ⟨t', hr', hnear⟩ := Parallel.run_eq he hs trivial trivial hr <;>
    rw [hr, hr'] at hb <;> rw [hr']
  · exact hb
  · rw [hr] at hkeeps
    rw [hr'] at hkeeps'
    exact hb.trans (hf a d t t' hnear (hi.keeps hkeeps) (hi'.keeps hkeeps'))

/-- What follows a look at what is the same in near sessions. -/
theorem lineByLine_session_bind {f : Session → Reading α} (heq : ∀ s s', s.Near s' → f s' = f s)
    (hf : ∀ s, LineByLine (f s)) : LineByLine (session >>= f) := by
  intro c s s' h hi hi'
  have hb := hf s c s s' h hi hi'
  change Beside s s' ((f s).run c s).2 ((f s').run c s').2
  rwa [heq s s' h]

theorem lineByLine_liftM {a : Action α} (h : Action.LineByLine a) : LineByLine (liftM a) :=
  fun _ => h

end Reading

namespace Statement

open DriverBench.Action (LineByLine)

variable {runner : ScriptRunner}

/-- The script that a line asks for. -/
theorem lineByLine_script (hr : ∀ source, LineByLine (runner source)) :
    Reading.LineByLine (script runner) := by
  unfold script
  refine Reading.lineByLine_bind (Reading.lineByLine_of_talks Reading.within_pathArgument)
    Reading.even_pathArgument Reading.within_pathArgument fun path => ?_
  refine Reading.lineByLine_bind (Reading.lineByLine_of_talks (Reading.within_warnTrailing _))
    (Reading.even_warnTrailing _) (Reading.within_warnTrailing _) fun _ => ?_
  refine Reading.lineByLine_session_bind (fun s s' h => by rw [h.files]) fun s => ?_
  split
  · exact Reading.lineByLine_of_talks (Reading.within_raise _ _)
  · exact Reading.lineByLine_liftM ((hr _).atSpan _)

end Statement

namespace Session

variable {runner : ScriptRunner} {s s' : Session}

/-- A line is a script, or it is run by itself. -/
theorem Near.beside_runLineWith (h : s.Near s') (hr : ∀ source, Action.LineByLine (runner source))
    (he : RunsEven runner) (hi : s.Idle) (hi' : s'.Idle) (line : String) :
    Beside s s' (Session.runLineWith runner line s).2 (Session.runLineWith runner line s').2 := by
  -- A script is taken apart in turn; any other line is one line on both sides.
  by_cases hline : command? (Cursor.ofLine line) = some .script
  · have hplain : plainLines [.ran s.depth line] = [] := by simp [plainLines, hline]
    have hnote := h.note (.ran s.depth line)
    have hbegin := beside_note s s' hplain
    have hscript := Statement.lineByLine_script hr (Cursor.ofLine line).advance _ _ hnote
      (hi.note _) (hi'.note _)
    have hevenly := Statement.evenFrom_script he (Cursor.ofLine line).advance _ _ hnote
      (hi.note _) (hi'.note _)
    rw [runLineWith_of_script hline, runLineWith_of_script hline, h.depth]
    rcases hx : (Statement.script runner).run (Cursor.ofLine line).advance
        (s.note (.ran s.depth line)) with ⟨⟨f | o, c⟩, t⟩ <;>
      rcases hx' : (Statement.script runner).run (Cursor.ofLine line).advance
        (s'.note (.ran s.depth line)) with ⟨⟨f' | o', c'⟩, t'⟩ <;>
      rw [hx, hx'] at hscript hevenly <;> cases hevenly.1
    · exact hbegin.trans (hscript.trans
        ((beside_dropTemporaries t t').trans (beside_report _ _ line f)))
    · exact hbegin.trans (hscript.trans (beside_dropTemporaries t t'))
  · rw [runLineWith_of_ne_script hline, runLineWith_of_ne_script hline]
    exact h.beside_runLine hi hi' hline

end Session

/-! ## Scripts -/

namespace Statement

open DriverBench.Action (LineByLine)

variable {runner : ScriptRunner}

theorem lineByLine_runLines (hr : ∀ source, LineByLine (runner source)) (he : RunsEven runner)
    (hk : KeepsIdle runner) (lines : List ScriptLine) : LineByLine (runLines runner lines) := by
  induction lines with
  | nil => exact fun s s' _ _ _ => Session.beside_refl s s'
  | cons line rest ih =>
    unfold runLines
    refine Action.lineByLine_bind (Action.lineByLine_of_talks (Action.within_echo line))
      (Action.even_echo line).from
      ((Action.within_echo line).ensures fun _ _ hs h => Idle.keeps h hs) fun _ => ?_
    refine Action.lineByLine_bind (fun s s' h hi hi' => h.beside_runLineWith hr he hi hi' line.text)
      (evenFrom_runLine he line.text)
      (Action.Ensures.modifyGet fun s hs => hs.runLineWith hk line.text) fun outcome => ?_
    split
    · exact ih
    · exact fun s s' _ _ _ => Session.beside_refl s s'

theorem lineByLine_runScriptWithin (levels : Nat) (source : String) :
    LineByLine (runScriptWithin levels source) := by
  induction levels generalizing source with
  | zero => exact fun s s' _ _ _ => Session.beside_refl s s'
  | succ levels ih =>
    exact (lineByLine_runLines ih (runsEven_runScriptWithin levels)
      (keepsIdle_runScriptWithin levels) _).deeper

theorem lineByLine_runScript (source : String) : LineByLine (runScript source) := by
  intro s s' h hi hi'
  have hrun := lineByLine_runScriptWithin (scriptDepthLimit - s.depth) source s s' h hi hi'
  unfold runScript
  rw [Action.run_get_bind, Action.run_get_bind, h.depth]
  exact hrun

end Statement

namespace Session

variable {s s' : Session}

/-- **A line**, line by line. -/
theorem Near.beside_line (h : s.Near s') (hi : s.Idle) (hi' : s'.Idle) (line : String) :
    Beside s s' (s.runLine line).2 (s'.runLine line).2 :=
  h.beside_runLineWith Statement.lineByLine_runScript Statement.runsEven_runScript hi hi' line

theorem Near.beside_runScriptFile (h : s.Near s') (hi : s.Idle) (hi' : s'.Idle) (path : String) :
    Beside s s' (s.runScriptFile path).2 (s'.runScriptFile path).2 := by
  unfold Session.runScriptFile
  rw [h.files]
  cases s.files.readText path with
  | error e => exact beside_report _ _ _ _
  | ok source =>
    have hb := Statement.lineByLine_runScript source s s' h hi hi'
    dsimp only
    rcases hr : (runScript source).run.run s with ⟨f | o, t⟩ <;>
      obtain ⟨t', hr', -⟩ :=
        (Statement.runsEven_runScript source).run_eq h hi hi' hr <;>
      rw [hr, hr'] at hb <;> rw [hr']
    · exact hb.trans (beside_report _ _ _ _)
    · exact hb

end Session

end DriverBench
