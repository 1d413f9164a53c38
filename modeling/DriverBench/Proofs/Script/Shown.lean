import DriverBench.Proofs.Reading.Gives
import DriverBench.Proofs.Script.Depth
import DriverBench.Proofs.Script.Trace
import DriverBench.Proofs.Session.Lines
import DriverBench.Proofs.Session.Report
/-!
# What is shown of a line that fails

A script ends at the first line that fails. Inside scripts a line is shown in one of two places: it
is echoed as its turn comes, or the report repeats it above the carets. The echo asks the line and
the option, the report asks the option only, and only where it has carets to print. So a line is
never shown both times, but it is not shown at all where echoes are off and the failure has no place
in the line or the line is long; and under a line that is not to be echoed there may be carets
although echoes are on.

It comes to the turn of a line (`Turn`) through the lines before it, all of them good, and through
the scripts around it. On the way a line may set the options, so what is shown is said by the
options of the moment: those as the turn comes, and those behind the line. No line that fails has
changed them, but for a script in which an echo failed (`options_of_error`).
-/

namespace DriverBench

open Statement (command?)

namespace Session

/-- A line of a script is echoed as its turn comes. -/
def Echoes (s : Session) (l : ScriptLine) : Prop :=
  l.silent = false ∧ s.options.echo = true

/-- A report has carets under the line. -/
def PointsAt (s : Session) (line : String) (f : Failure) : Prop :=
  s.options.caret = true ∧ f.span.isSome = true ∧ line.utf8ByteSize < caretLimit

/-- A report in a script has the line in front of the carets. -/
def Repeats (s : Session) (line : String) (f : Failure) : Prop :=
  s.PointsAt line f ∧ s.options.echo = false

instance (s : Session) (l : ScriptLine) : Decidable (s.Echoes l) :=
  inferInstanceAs (Decidable (_ ∧ _))

instance (s : Session) (line : String) (f : Failure) : Decidable (s.PointsAt line f) :=
  inferInstanceAs (Decidable (_ ∧ _))

instance (s : Session) (line : String) (f : Failure) : Decidable (s.Repeats line f) :=
  inferInstanceAs (Decidable (_ ∧ _))

/-- A line that names `script` comes to running the source of a file, in the session behind what the
line says. -/
def Enters (s : Session) (line source : String) (s' : Session) : Prop :=
  ∃ path span c c' s₁, command? (Cursor.ofLine line) = some .script ∧
    Reading.Gives Reading.pathArgument (Cursor.ofLine line).advance (s.note (.ran s.depth line))
      (path, span) c s₁ ∧
    Reading.Gives (Reading.warnTrailing .script) c s₁ () c' s' ∧
    s'.files.readText path = .ok source

end Session

open Session (Enters)

/-- **The turn of a line.** While lines are run from a session, it comes to the turn of one of them,
or of a line of a script that one of them runs, in another session: every line before it was echoed
as it is, and good. -/
inductive Turn : List ScriptLine → Session → ScriptLine → Session → Prop
  | here (l : ScriptLine) (rest : List ScriptLine) (s : Session) : Turn (l :: rest) s l s
  | later {l l' : ScriptLine} {rest : List ScriptLine} {s s₁ s₂ t : Session} :
      (echo l).Gives s () s₁ → s₁.runLine l.text = (.good, s₂) → Turn rest s₂ l' t →
      Turn (l :: rest) s l' t
  | inside {l l' : ScriptLine} {rest : List ScriptLine} {source : String} {s s₁ s₂ t : Session} :
      (echo l).Gives s () s₁ → s₁.Enters l.text source s₂ → s₂.depth < scriptDepthLimit →
      Turn (ScriptLine.ofSource source) { s₂ with depth := s₂.depth + 1 } l' t →
      Turn (l :: rest) s l' t

variable {l : ScriptLine} {lines rest : List ScriptLine} {s s' t t₁ t₂ : Session} {f : Failure}

/-! ## A line of a script -/

theorem run_echo (l : ScriptLine) (s : Session) :
    (echo l).run.run s =
      if s.Echoes l then (Action.print (l.text ++ "\n")).run.run s else (.ok (), s) := by
  have hcond : (!l.silent && s.options.echo) = true ↔ s.Echoes l := by simp [Session.Echoes]
  unfold echo
  rw [Action.run_get_bind]
  by_cases h : s.Echoes l
  · rw [if_pos (hcond.2 h), if_pos h]
    rfl
  · rw [if_neg (mt hcond.1 h), if_neg h]
    rfl

/-- An echo is a line more on the output. -/
theorem eq_of_echo (h : (echo l).Gives t () t₁) :
    t₁ = if t.Echoes l then { t with out := { t.out with text := t.out.text ++ (l.text ++ "\n") } }
      else t := by
  unfold Action.Gives at h
  rw [run_echo] at h
  split
  · next hechoes =>
    rw [if_pos hechoes] at h
    have hne : l.text ++ "\n" ≠ "" := by simp
    unfold Action.print at h
    rw [Action.run_get_bind] at h
    rcases t.out.write_cases hne with ⟨-, hw⟩ | ⟨why, -, hw⟩
    · rw [hw] at h
      exact (Prod.mk.inj h).2.symm
    · rw [hw] at h
      cases (Prod.mk.inj h).1
  · next hnot =>
    rw [if_neg hnot] at h
    exact (Prod.mk.inj h).2.symm

/-- An echo that fails was wanted, on an output that takes nothing, and leaves the session as it is.
-/
theorem eq_of_echo_error (h : (echo l).run.run t = (.error f, t₁)) :
    t₁ = t ∧ t.Echoes l ∧ ∃ why, t.out.broken = some why ∧ f = { fault := .output why } := by
  rw [run_echo] at h
  split at h
  · next hechoes =>
    have hne : l.text ++ "\n" ≠ "" := by simp
    unfold Action.print at h
    rw [Action.run_get_bind] at h
    rcases t.out.write_cases hne with ⟨-, hw⟩ | ⟨why, hbroken, hw⟩
    · rw [hw] at h
      cases (Prod.mk.inj h).1
    · rw [hw] at h
      obtain ⟨hf, hsame⟩ := Prod.mk.inj h
      exact ⟨hsame.symm, hechoes, why, hbroken, (Except.error.inj hf).symm⟩
  · cases (Prod.mk.inj h).1

/-- Lines are run no further than to an echo that fails. -/
theorem run_runLines_of_echo_error (h : (echo l).run.run s = (.error f, t))
    (rest : List ScriptLine) :
    (runLines runScript (l :: rest)).run.run s = (.error f, s) := by
  obtain ⟨rfl, -⟩ := eq_of_echo_error h
  rw [runLines, Action.run_bind, h]

/-- Behind a good line the others are run. -/
theorem run_runLines_of_good (h : (echo l).Gives s () t) (hline : t.runLine l.text = (.good, t₁))
    (rest : List ScriptLine) :
    (runLines runScript (l :: rest)).run.run s = (runLines runScript rest).run.run t₁ := by
  have hrun : Session.runLineWith runScript l.text t = (.good, t₁) := hline
  unfold Action.Gives at h
  rw [runLines, Action.run_bind, h]
  dsimp only
  rw [Action.run_modifyGet_bind, hrun]

/-- A line that is not good is the last one. -/
theorem run_runLines_of_stop {o : Outcome} (h : (echo l).Gives s () t)
    (hline : t.runLine l.text = (o, t₁)) (ho : o ≠ .good) (rest : List ScriptLine) :
    (runLines runScript (l :: rest)).run.run s = (.ok o, t₁) := by
  have hrun : Session.runLineWith runScript l.text t = (o, t₁) := hline
  unfold Action.Gives at h
  rw [runLines, Action.run_bind, h]
  dsimp only
  rw [Action.run_modifyGet_bind, hrun]
  cases o with
  | good => exact absurd rfl ho
  | quit | fail => rfl

/-- A line is executed, and reported if it fails. -/
theorem runLine_eq (s : Session) (line : String) :
    s.runLine line =
      match (s.note (.ran s.depth line)).execute line with
      | (.ok outcome, t) => (outcome, t)
      | (.error f, t) => (.fail, t.report line f) :=
  rfl

/-- Above the limit the lines of a script are run one level deeper. -/
theorem run_runScript_of_lt (h : s.depth < scriptDepthLimit) {source : String}
    {answer : Except Failure Outcome}
    (hlines : (runLines runScript (ScriptLine.ofSource source)).run.run
      { s with depth := s.depth + 1 } = (answer, t)) :
    (runScript source).run.run s = (answer, { t with depth := t.depth - 1 }) := by
  rw [run_runScript, if_neg (Nat.not_le.2 h), Action.run_deeper, hlines]

/-- A script that comes to an outcome is above the limit, and its lines come to that outcome. -/
theorem exists_run_of_runScript {source : String} {o : Outcome}
    (h : (runScript source).run.run s = (.ok o, s')) :
    s.depth < scriptDepthLimit ∧ ∃ t, (runLines runScript (ScriptLine.ofSource source)).run.run
      { s with depth := s.depth + 1 } = (.ok o, t) := by
  rw [run_runScript] at h
  split at h
  · cases h
  · next hlimit =>
    rw [Action.run_deeper] at h
    exact ⟨Nat.not_le.1 hlimit, _, Prod.ext (Prod.mk.inj h).1 rfl⟩

/-! ## Scripts inside -/

/-- A line that comes to running a source is the run of that source. -/
theorem run_of_enters {line source : String} (h : s.Enters line source s') :
    ∃ span, s.runLine line =
      match (runScript source).run.run s' with
      | (.ok outcome, t) => (outcome, t.dropTemporaries)
      | (.error f, t) => (.fail, t.dropTemporaries.report line (f.atSpan span)) := by
  obtain ⟨path, span, c, c', s₁, hscript, hpath, hwarn, hread⟩ := h
  refine ⟨span, ?_⟩
  have hrun : (Statement.script runScript).run (Cursor.ofLine line).advance
      (s.note (.ran s.depth line)) =
      match ((runScript source).atSpan span).run.run s' with | (x, t) => ((x, c'), t) := by
    unfold Reading.Gives at hpath hwarn
    unfold Statement.script
    rw [Reading.run_bind, hpath]
    dsimp only
    rw [Reading.run_bind, hwarn]
    dsimp only
    rw [Reading.run_bind, Reading.gives_session]
    dsimp only
    rw [hread]
    rfl
  unfold Session.runLine
  rw [Session.runLineWith_of_script hscript, hrun, Action.run_atSpan]
  rcases (runScript source).run.run s' with ⟨g | o, t⟩ <;> rfl

theorem Session.Enters.depth {line source : String} (h : s.Enters line source s') :
    s'.depth = s.depth := by
  obtain ⟨path, span, c, c', s₁, -, hpath, hwarn, -⟩ := h
  have hfirst : (s.note (.ran s.depth line)).Steady s₁ := hpath.within Reading.within_pathArgument
  have hsecond : s₁.Steady s' := hwarn.within (Reading.within_warnTrailing _)
  exact hsecond.depth.trans hfirst.depth

/-- A line that is executed with a failed outcome came to running a source that failed. -/
theorem exists_enters_of_fail {line : String}
    (h : (s.note (.ran s.depth line)).execute line = (.ok .fail, t)) :
    ∃ source s' t', s.Enters line source s' ∧
      (runScript source).run.run s' = (.ok .fail, t') := by
  unfold Session.execute Session.executeWith at h
  rcases hx : (Statement.execute runScript).run (Cursor.ofLine line)
    (s.note (.ran s.depth line)) with ⟨⟨g | o, c⟩, t'⟩
  · rw [hx] at h
    cases (Prod.mk.inj h).1
  rw [hx] at h
  obtain rfl : o = .fail := Except.ok.inj (Prod.mk.inj h).1
  rcases Statement.execute_cases runScript (Cursor.ofLine line) with
    hr | ⟨f, c', hr⟩ | hr | ⟨command, hcommand, hr⟩
  · rw [hr] at hx
    cases hx
  · rw [hr] at hx
    cases hx
  · have hgood := Statement.answers_assignment (Cursor.ofLine line) (s.note (.ran s.depth line))
      trivial
    rw [← hr, hx] at hgood
    cases hgood
  by_cases hscript : command = .script
  · subst hscript
    have hgives : Reading.Gives (Statement.script runScript) (Cursor.ofLine line).advance
        (s.note (.ran s.depth line)) .fail c t' := (hr _).symm.trans hx
    unfold Statement.script at hgives
    obtain ⟨⟨path, span⟩, c₁, s₁, hpath, hgives⟩ := hgives.exists_of_bind
    obtain ⟨_, c₂, s₂, hwarn, hgives⟩ := hgives.exists_of_bind
    obtain ⟨s₃, c₃, s₄, hsession, hgives⟩ := hgives.exists_of_bind
    cases hsession
    cases hread : s₂.files.readText path with
    | error e =>
      rw [hread] at hgives
      cases hgives
    | ok source =>
      rw [hread] at hgives
      refine ⟨source, s₂, t', ⟨path, span, c₁, c₂, s₁, hcommand, hpath, hwarn, hread⟩, ?_⟩
      unfold Reading.Gives at hgives
      change (match ((runScript source).atSpan span).run.run s₂ with | (x, t) => ((x, c₂), t)) =
        _ at hgives
      rw [Action.run_atSpan] at hgives
      rcases hrun : (runScript source).run.run s₂ with ⟨g | o, t₂⟩
      · rw [hrun] at hgives
        cases hgives
      · rw [hrun] at hgives
        cases hgives
        rfl
  · have hanswer := Statement.answers_perform runScript hscript (Cursor.ofLine line).advance
      (s.note (.ran s.depth line)) trivial
    rw [← hr, hx] at hanswer
    by_cases hquit : command = .quit <;> simp [hquit] at hanswer

/-! ## Where a script fails -/

theorem depth_of_echo (h : (echo l).Gives t () t₁) : t₁.depth = t.depth := by
  rw [eq_of_echo h]
  split <;> rfl

/-- A turn comes inside scripts if the lines are run inside scripts. -/
theorem Turn.depth_pos (h : Turn lines s l t) (hs : 0 < s.depth) : 0 < t.depth := by
  induction h with
  | here => exact hs
  | @later l l' rest s s₁ s₂ t hecho hgood _ ih =>
    have hdepth := (s₁.nested_runLine l.text).depth
    rw [hgood] at hdepth
    exact ih (by rw [hdepth, depth_of_echo hecho]; exact hs)
  | inside _ _ _ _ ih => exact ih (Nat.succ_pos _)

theorem dropTemporaries_streams (s : Session) :
    s.dropTemporaries.out = s.out ∧ s.dropTemporaries.err = s.err := by
  obtain ⟨fleet, heq, -⟩ := Session.letGo_eq { s with temporaries := [] } s.temporaries
  rw [Session.dropTemporaries, heq]
  exact ⟨rfl, rfl⟩

/-- **Where a line fails the run ends**, in the scripts around it as well, and no more is written.
-/
theorem Turn.stops (h : Turn lines s l t) (hecho : (echo l).Gives t () t₁)
    (hfail : t₁.runLine l.text = (.fail, t₂)) :
    ∃ s', (runLines runScript lines).run.run s = (.ok .fail, s') ∧ s'.out = t₂.out ∧
      s'.err = t₂.err := by
  induction h with
  | here l rest s =>
    exact ⟨t₂, run_runLines_of_stop hecho hfail (by decide) rest, rfl, rfl⟩
  | later hfirst hgood _ ih =>
    obtain ⟨s', hrun, hstreams⟩ := ih hecho hfail
    exact ⟨s', (run_runLines_of_good hfirst hgood _).trans hrun, hstreams⟩
  | @inside l l' rest source s s₁ s₂ t hfirst henters hdepth _ ih =>
    obtain ⟨s', hrun, hout, herr⟩ := ih hecho hfail
    have hscript := run_runScript_of_lt hdepth hrun
    obtain ⟨span, hline⟩ := run_of_enters henters
    rw [hscript] at hline
    obtain ⟨hout', herr'⟩ := dropTemporaries_streams { s' with depth := s'.depth - 1 }
    exact ⟨_, run_runLines_of_stop hfirst hline (by decide) rest, hout'.trans hout,
      herr'.trans herr⟩

/-- While lines are run, it comes to the turn of a line that fails. -/
def FailsInTurn (lines : List ScriptLine) (s : Session) : Prop :=
  ∃ l t t₁ t₂ f, Turn lines s l t ∧ (echo l).Gives t () t₁ ∧
    (t₁.note (.ran t₁.depth l.text)).execute l.text = (.error f, t₂)

/-- Lines that come to a failed outcome came to a line that fails, if scripts one level deeper do.
-/
theorem failsInTurn_of_deeper {depth : Nat} (hdeeper : depth < scriptDepthLimit →
      ∀ source (s s' : Session), s.depth = depth + 1 →
        (runLines runScript (ScriptLine.ofSource source)).run.run s = (.ok .fail, s') →
        FailsInTurn (ScriptLine.ofSource source) s)
    (hs : s.depth = depth) (h : (runLines runScript lines).run.run s = (.ok .fail, s')) :
    FailsInTurn lines s := by
  induction lines generalizing s with
  | nil => cases h
  | cons l rest ih =>
    rcases hecho : (echo l).run.run s with ⟨f | u, s₁⟩
    · rw [run_runLines_of_echo_error hecho] at h
      cases h
    have hgives : (echo l).Gives s () s₁ := hecho
    rcases hx : (s₁.note (.ran s₁.depth l.text)).execute l.text with ⟨f | o, t⟩
    · exact ⟨l, s, s₁, t, f, .here l rest s, hgives, hx⟩
    have hline : s₁.runLine l.text = (o, t) := by rw [runLine_eq, hx]
    have hs₁ : s₁.depth = depth := (depth_of_echo hgives).trans hs
    cases o with
    | good =>
      have hdepth := (s₁.nested_runLine l.text).depth
      rw [hline] at hdepth
      rw [run_runLines_of_good hgives hline] at h
      obtain ⟨l', t', t₁, t₂, f, hturn, hfails⟩ := ih (hdepth.trans hs₁) h
      exact ⟨l', t', t₁, t₂, f, .later hgives hline hturn, hfails⟩
    | quit =>
      rw [run_runLines_of_stop hgives hline (by decide)] at h
      cases h
    | fail =>
      obtain ⟨source, s₂, t', henters, hrun⟩ := exists_enters_of_fail hx
      have hs₂ : s₂.depth = depth := henters.depth.trans hs₁
      obtain ⟨hlimit, t₃, hlines⟩ := exists_run_of_runScript hrun
      obtain ⟨l', t₀, t₁, t₂, f, hturn, hfails⟩ := hdeeper (by omega) source
        { s₂ with depth := s₂.depth + 1 } t₃ (congrArg (· + 1) hs₂) hlines
      exact ⟨l', t₀, t₁, t₂, f, .inside hgives henters hlimit hturn, hfails⟩

/-- **A script fails at a line**: in one that comes to a failed outcome, or in a script inside,
there was the turn of a line that failed. -/
theorem failsInTurn_of_runLines {levels : Nat} (hlevels : scriptDepthLimit - s.depth ≤ levels)
    (h : (runLines runScript lines).run.run s = (.ok .fail, s')) : FailsInTurn lines s := by
  -- By the levels that are left: at the limit no script is entered.
  induction levels generalizing lines s s' with
  | zero => exact failsInTurn_of_deeper (fun hlt => absurd hlt (by omega)) rfl h
  | succ levels ih =>
    exact failsInTurn_of_deeper (fun _ _ _ _ hs hrun => ih (by omega) hrun) rfl h

/-! ## The options behind a line that fails -/

namespace Session

/-- The options are the same. -/
def SameOptions (s s' : Session) : Prop :=
  s'.options = s.options

instance : TalkFrame SameOptions where
  refl _ := rfl
  trans h h' := h'.trans h
  of_talks := by
    rintro s _ ⟨out, err, rfl⟩
    rfl

/-- No command but `set` changes an option itself. -/
theorem allows_sameOptions {command : Command} (h : command ≠ .set) :
    Allows SameOptions command := by
  have hdrive : ∀ {α : Type} (c : Simulator.Call α), Action.Within SameOptions (Action.drive c) :=
    fun _ => Action.within_drive fun _ _ _ _ => rfl
  cases command with
  | load =>
    intro s
    obtain ⟨active, fleet, heq⟩ := setDriver_eq s
    rw [heq]
    rfl
  | select =>
    refine ⟨fun target index => hdrive _, fun s => ?_⟩
    obtain ⟨fleet, heq⟩ := invalidate_eq s
    rw [heq]
    rfl
  | set => exact absurd rfl h
  | release =>
    intro s s' names count hu
    obtain ⟨env, fleet, rfl⟩ := unbind_eq hu
    rfl
  | save => exact fun _ _ => rfl
  | run => exact ⟨fun plan => hdrive _, hdrive _, fun _ _ => rfl⟩
  | wait =>
    refine ⟨hdrive _, fun s => ?_⟩
    obtain ⟨fleet, heq, -⟩ := letGo_eq { s with inFlight := [] } s.inFlight
    rw [heq]
    rfl
  | flush => exact hdrive _
  | info | list | script | bind | help | quit => trivial

end Session

namespace Statement

open Reading
open Session (SameOptions)

/-- What the options are behind a line of a script that fails: what they were, unless the line ran a
script and that one failed for an echo. -/
def OptionsKept (options : Options) (c : Cursor) (s : Session) : Prop :=
  s.options = options ∨ command? c = some .script ∧ s.options.echo = true

theorem ensures_sameOptions {α : Type} {r : Reading α} (h : Within SameOptions r)
    (options : Options) :
    Ensures (fun s => s.options = options) r (fun _ s => s.options = options)
      (fun s => s.options = options) :=
  h.ensures fun _ _ hs heq => hs.trans heq

/-- Settings are changed last. -/
theorem ensures_settings (options : Options) :
    Ensures (fun s => s.options = options) settings (fun _ _ => True)
      (fun s => s.options = options) := by
  have hshow := ensures_sameOptions within_showSettings options
  unfold settings changeSetting
  refine (ensures_sameOptions within_hasMore options).bind fun more => Ensures.ite (fun _ => ?_)
    fun _ => hshow.mono (fun _ h => h) (fun _ _ _ => trivial) fun _ h => h
  refine (ensures_sameOptions (within_choice _ _ _) options).bind fun setting => ?_
  refine (ensures_sameOptions within_truthValue options).bind fun value => ?_
  refine (ensures_sameOptions (within_warnTrailing _) options).bind fun _ => ?_
  exact Ensures.bind (Q := fun _ _ => True) (Ensures.change fun _ _ => trivial) fun _ =>
    Ensures.pure fun _ _ => trivial

/-- A script that cannot be run to its end has come to an echo that failed, unless it was refused.
-/
theorem ensures_runLines_echo (lines : List ScriptLine) :
    Action.Ensures (fun _ => True) (runLines runScript lines) (fun _ _ => True)
      (fun s => s.options.echo = true) := by
  induction lines with
  | nil => exact Action.Ensures.pure fun _ _ => trivial
  | cons l rest ih =>
    intro s _
    rcases hecho : (echo l).run.run s with ⟨f | u, s₁⟩
    · rw [run_runLines_of_echo_error hecho]
      exact (eq_of_echo_error hecho).2.1.2
    · have hgives : (echo l).Gives s () s₁ := hecho
      rcases hline : s₁.runLine l.text with ⟨o, s₂⟩
      by_cases ho : o = .good
      · subst ho
        rw [run_runLines_of_good hgives hline]
        exact ih s₂ trivial
      · rw [run_runLines_of_stop hgives hline ho]
        trivial

theorem ensures_runScript_echo (options : Options) (source : String) :
    Action.Ensures (fun s => s.options = options) (runScript source) (fun _ _ => True)
      (fun s => s.options = options ∨ s.options.echo = true) := by
  intro s hs
  by_cases hlimit : s.depth < scriptDepthLimit
  · have hlines := ensures_runLines_echo (ScriptLine.ofSource source)
      { s with depth := s.depth + 1 } trivial
    rcases hrun : (runLines runScript (ScriptLine.ofSource source)).run.run
      { s with depth := s.depth + 1 } with ⟨f | o, s'⟩
    · rw [hrun] at hlines
      rw [run_runScript_of_lt hlimit hrun]
      exact .inr hlines
    · rw [run_runScript_of_lt hlimit hrun]
      trivial
  · rw [run_runScript, if_pos (Nat.not_lt.1 hlimit)]
    exact .inl hs

theorem ensures_script_echo (options : Options) :
    Ensures (fun s => s.options = options) (script runScript) (fun _ _ => True)
      (fun s => s.options = options ∨ s.options.echo = true) := by
  have hkeep : ∀ {α : Type} {r : Reading α}, Within SameOptions r →
      Ensures (fun s => s.options = options) r (fun _ s => s.options = options)
        (fun s => s.options = options ∨ s.options.echo = true) := fun h =>
    (ensures_sameOptions h options).mono (fun _ h => h) (fun _ _ h => h) fun _ h => .inl h
  unfold script
  refine (hkeep within_pathArgument).bind fun path => ?_
  refine (hkeep (within_warnTrailing _)).bind fun _ => (hkeep within_session).bind fun s => ?_
  split
  · exact Ensures.raise fun _ h => .inl h
  · exact Ensures.liftM ((ensures_runScript_echo options _).atSpan _)

/-- **A line that fails** has changed no option. -/
theorem options_of_error {c c' : Cursor} {f : Failure}
    (h : (execute runScript).run c s = ((.error f, c'), s')) : OptionsKept s.options c s' := by
  have hassignment : Within SameOptions assignment :=
    within_assignment (fun _ _ hs => hs.options) fun _ _ _ _ _ => rfl
  rcases execute_cases runScript c with hr | ⟨g, c'', hr⟩ | hr | ⟨command, hcommand, hr⟩
  · rw [hr] at h
    cases h
  · rw [hr] at h
    cases h
    exact .inl rfl
  · have hsame := hassignment c s
    rw [← hr, h] at hsame
    exact .inl hsame
  · rw [hr] at h
    by_cases hscript : command = .script
    · subst hscript
      have hecho := ensures_script_echo s.options c.advance s rfl
      change (script runScript).run _ _ = _ at h
      rw [h] at hecho
      exact hecho.imp_right fun hon => ⟨hcommand, hon⟩
    · by_cases hset : command = .set
      · subst hset
        have hkept := ensures_settings s.options c.advance s rfl
        change settings.run _ _ = _ at h
        rw [h] at hkept
        exact .inl hkept
      · have hsame := within_perform (R := SameOptions) (fun _ _ hs => hs.options) runScript hscript
          (Session.allows_sameOptions hset) c.advance s
        rw [h] at hsame
        exact .inl hsame

end Statement

namespace Session

theorem options_of_execute {line : String} (h : s.execute line = (.error f, s')) :
    Statement.OptionsKept s.options (Cursor.ofLine line) s' := by
  unfold execute executeWith at h
  rcases hx : (Statement.execute runScript).run (Cursor.ofLine line) s with ⟨⟨g | o, c⟩, t⟩
  · rw [hx] at h
    obtain ⟨hf, rfl⟩ := Prod.mk.inj h
    obtain rfl := Except.error.inj hf
    have hkept := Statement.options_of_error hx
    have hoptions : t.dropTemporaries.options = t.options := (spares_dropTemporaries t).options
    unfold Statement.OptionsKept at hkept ⊢
    rwa [hoptions]
  · rw [hx] at h
    cases (Prod.mk.inj h).1

/-- What a report in a script writes: the line, where it is repeated, the carets, where it points,
and the message. -/
theorem err_report_of_points {line : String} (hdepth : 0 < s.depth) (hf : f.Points line) :
    ∃ row, (∀ sp, f.span = some sp → s.PointsAt line f → s.Marks line sp row) ∧
      (s.report line f).err = s.err.tryWrite ((if s.Repeats line f then line ++ "\n" else "") ++
        (if s.PointsAt line f then row ++ "\n" else "") ++ f.fault.message ++ "\n") := by
  obtain ⟨hpoints, hnot⟩ := reportText_of_points hf s
  by_cases hat : s.PointsAt line f
  · obtain ⟨sp, hsp⟩ := Option.isSome_iff_exists.1 hat.2.1
    obtain ⟨row, hmarks, htext⟩ := hpoints sp hat.1 hsp hat.2.2
    refine ⟨row, fun sp' hsp' _ => ?_, ?_⟩
    · obtain rfl := Option.some.inj (hsp.symm.trans hsp')
      exact hmarks
    · have hshown : s.shownAgain line = if s.Repeats line f then line ++ "\n" else "" := by
        unfold shownAgain Repeats
        exact if_congr (by simp [hat, Nat.ne_of_gt hdepth]) rfl rfl
      rw [if_pos hat, ← hshown, ← String.append_assoc]
      exact congrArg s.err.tryWrite htext
  · refine ⟨"", fun _ _ h => absurd h hat, ?_⟩
    rw [if_neg fun h => hat h.1, if_neg hat]
    exact congrArg s.err.tryWrite (hnot hat)

/-- What is shown of a line that fails in a script: as its turn comes, in a session `t`, and in the
report, which is made in the session `t₂` behind it. -/
structure ShownAs (t t₁ t₂ : Session) (l : ScriptLine) (f : Failure) : Prop where
  /-- First there is the echo, if there is one. -/
  echo : t₁.err = t.err ∧ t₁.out.text = t.out.text ++ (if t.Echoes l then l.text ++ "\n" else "")
  /-- Then there is the report: the line, if it is repeated, the carets under the place, if it
  points at one, and the message. -/
  report : ∃ row, (∀ sp, f.span = some sp → t₂.PointsAt l.text f → t₂.Marks l.text sp row) ∧
    (t₂.report l.text f).err =
      t₂.err.tryWrite ((if t₂.Repeats l.text f then l.text ++ "\n" else "") ++
        (if t₂.PointsAt l.text f then row ++ "\n" else "") ++ f.fault.message ++ "\n")
  /-- The options are the same in between, unless the line ran a script in which an echo failed. -/
  options : t₂.options = t.options ∨
    command? (Cursor.ofLine l.text) = some .script ∧ t₂.options.echo = true
  /-- The line is not shown both times. -/
  once : ¬ (t.Echoes l ∧ t₂.Repeats l.text f)
  /-- With carets wanted, it is shown one time if and only if it is echoed, or echoes are not wanted
  and the report points at a place of it. -/
  shown : t₂.options = t.options → t.options.caret = true →
    (t.Echoes l ∨ t₂.Repeats l.text f ↔
      t.options.echo = true ∧ l.silent = false ∨
        t.options.echo = false ∧ f.span.isSome = true ∧ l.text.utf8ByteSize < caretLimit)

theorem shownAs_of_error (hdepth : 0 < t.depth) (hecho : (echo l).Gives t () t₁)
    (hfail : (t₁.note (.ran t₁.depth l.text)).execute l.text = (.error f, t₂)) :
    t.ShownAs t₁ t₂ l f := by
  have ht₁ := eq_of_echo hecho
  have hoptions₁ : t₁.options = t.options := by
    rw [ht₁]
    split <;> rfl
  have hkept : t₂.options = t.options ∨
      command? (Cursor.ofLine l.text) = some .script ∧ t₂.options.echo = true := by
    have hnoted : (t₁.note (.ran t₁.depth l.text)).options = t.options := hoptions₁
    exact hnoted ▸ options_of_execute hfail
  have hdepth₂ : 0 < t₂.depth := by
    have hline := (t₁.nested_runLine l.text).depth
    rw [runLine_eq, hfail] at hline
    exact (hline.trans (depth_of_echo hecho)).symm ▸ hdepth
  -- Where echoes were wanted before, they are behind the line.
  have hon : t.options.echo = true → t₂.options.echo = true := fun hon =>
    hkept.elim (fun heq => heq ▸ hon) And.right
  have honce : ¬ (t.Echoes l ∧ t₂.Repeats l.text f) := fun ⟨hechoes, hrepeats⟩ =>
    absurd ((hon hechoes.2).symm.trans hrepeats.2) (by decide)
  refine ⟨⟨?_, ?_⟩, err_report_of_points hdepth₂ (points_of_execute hfail), hkept, honce, ?_⟩
  · rw [ht₁]
    split <;> rfl
  · rw [ht₁]
    split
    · rfl
    · exact (String.append_empty).symm
  · intro hsame hcaret
    unfold Echoes Repeats PointsAt
    rw [hsame, hcaret]
    tauto

/-- **What is shown of the line at which a script fails.** A script that comes to a failed outcome
has come to the turn of a line that failed, one of its own or of a script inside. Where a line fails
as its turn comes, the run ends; the line is echoed or not, it is repeated in the report or not, but
not both; and both are left out if it is not to be echoed although echoes are wanted, or if echoes
are not wanted and the failure names no place or the line is long. -/
theorem shown_of_failing_line (s : Session) (source : String) :
    (∀ s', (runScript source).run.run s = (.ok .fail, s') →
      FailsInTurn (ScriptLine.ofSource source) { s with depth := s.depth + 1 }) ∧
    ∀ l t t₁ t₂ f, s.depth < scriptDepthLimit →
      Turn (ScriptLine.ofSource source) { s with depth := s.depth + 1 } l t →
      (echo l).Gives t () t₁ →
      (t₁.note (.ran t₁.depth l.text)).execute l.text = (.error f, t₂) →
      t.ShownAs t₁ t₂ l f ∧
        ∃ s', (runScript source).run.run s = (.ok .fail, s') ∧ s'.out = t₂.out ∧
          s'.err = (t₂.report l.text f).err := by
  constructor
  · intro s' hrun
    obtain ⟨-, t, hlines⟩ := exists_run_of_runScript hrun
    exact failsInTurn_of_runLines (Nat.le_refl _) hlines
  · intro l t t₁ t₂ f hlimit hturn hecho hfail
    refine ⟨shownAs_of_error (hturn.depth_pos (Nat.succ_pos _)) hecho hfail, ?_⟩
    have hline : t₁.runLine l.text = (.fail, t₂.report l.text f) := by rw [runLine_eq, hfail]
    obtain ⟨s', hrun, hout, herr⟩ := hturn.stops hecho hline
    exact ⟨_, run_runScript_of_lt hlimit hrun, hout, herr⟩

/-- A session without a driver and without images. -/
def driverless : Session :=
  { codec := ⟨fun _ => false, fun _ _ => .ok none, fun _ _ _ _ => .ok none⟩ }

/-- With carets wanted and echoes not, a script fails at `wait` without a driver: that line is not
shown, and the message stands alone. -/
theorem shown_of_wait : ∃ (t₁ t₂ : Session) (f : Failure),
    ({ driverless with depth := 1 } : Session).ShownAs t₁ t₂ ⟨"wait", false⟩ f ∧
      driverless.options.caret = true ∧
      ¬ ({ driverless with depth := 1 } : Session).Echoes ⟨"wait", false⟩ ∧ ¬ t₂.Repeats "wait" f ∧
      ∃ s', (runScript "wait\n").run.run driverless = (.ok .fail, s') ∧ s'.out.text = "" ∧
        s'.err.text = f.fault.message ++ "\n" := by
  let t : Session := { driverless with depth := 1 }
  let waited : Session := ((t.note (.ran 1 "wait")).execute "wait").2
  have hlines : ScriptLine.ofSource "wait\n" = [⟨"wait", false⟩] := by decide +kernel
  have hturn : Turn (ScriptLine.ofSource "wait\n") t ⟨"wait", false⟩ t := hlines ▸ .here _ _ _
  have hfail : ((t.note (.ran 1 "wait")).execute "wait").1 = .error { fault := .noDriver } := by
    decide +kernel
  obtain ⟨hshown, s', hrun, hout, herr⟩ := (shown_of_failing_line driverless "wait\n").2
    ⟨"wait", false⟩ t t waited { fault := .noDriver } (by decide) hturn rfl (Prod.ext hfail rfl)
  refine ⟨t, waited, _, hshown, rfl, by decide, fun h => ?_, s', hrun, ?_, ?_⟩
  · cases h.1.2.1
  · rw [hout]
    decide +kernel
  · rw [herr]
    decide +kernel

end Session

end DriverBench
