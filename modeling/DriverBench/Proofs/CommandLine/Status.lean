import DriverBench.CommandLine
import DriverBench.Proofs.Script.Journal
import DriverBench.Proofs.Script.Shown
import DriverBench.Proofs.Token.Quoted
/-!
# The exit status and what was done last

A run does one thing after the other: it loads a library that was named, it runs the lines of
scripts and the lines that the arguments name, up to the first that is not good, and it runs what is
entered in the interactive loop. All of that is listed here as it is done (`Arguments.done`), with
the session that each line is run in. The list is the whole run: each line is run in the session
that the one before it left, and no other line is run in between (`Session.Does`).

In front of the loop the exit status is that of the last outcome, where a script that cannot be read
or run to its end counts as one that failed (`Account`). The loop forgets the outcomes of its lines
and those in front of it: when nothing more is to be read, the run has ended well.

The lines inside a script that a line asks for are not listed by themselves: that line ends behind
them, and with their outcome.
-/

namespace DriverBench

open Statement (command?)

/-- Something that a run of the program does: it runs a line, or it gives up a script that cannot be
read or run as a whole, in a session behind the report of that. -/
inductive Done where
  | line (r : Executed)
  | script (path : String) (reported : Session)

namespace Done

/-- What was done came to an outcome. -/
def outcome : Done → Outcome
  | line r => r.outcome
  | script _ _ => .fail

/-- The session in front of what was done. -/
def before : Done → Session
  | line r => r.before
  | script _ reported => reported

/-- The session behind what was done. -/
def after : Done → Session
  | line r => r.after
  | script _ reported => reported

end Done

/-- The outcome of the last thing that was done. -/
def lastOutcome (ds : List Done) : Outcome :=
  ds.getLast?.elim .good Done.outcome

namespace Session

/-- What is done by lines of a script. -/
def doneByLines : List ScriptLine → Session → List Done
  | [], _ => []
  | l :: rest, s =>
    match (echo l).run.run s with
    | (.error _, _) => []
    | (.ok _, s) =>
      .line ⟨l.text, s⟩ ::
        match s.runLine l.text with
        | (.good, s) => doneByLines rest s
        | _ => []

/-- What is done by the source of a script. -/
def doneBySource (s : Session) (source : String) : List Done :=
  if scriptDepthLimit ≤ s.depth then []
  else doneByLines (ScriptLine.ofSource source) { s with depth := s.depth + 1 }

/-- What is done by a script from a file. -/
def doneByScript (s : Session) (path : String) : List Done :=
  match s.files.readText path with
  | .error _ => [.script path (s.runScriptFile path).2]
  | .ok source =>
    doneBySource s source ++
      match (runScript source).run.run s with
      | (.error _, _) => [.script path (s.runScriptFile path).2]
      | (.ok _, _) => []

/-- What is done by steps that are run until one is not good. -/
def doneUntil {α : Type} (step : Session → α → Outcome × Session)
    (done : Session → α → List Done) : List α → Session → List Done
  | [], _ => []
  | a :: rest, s =>
    done s a ++
      match step s a with
      | (.good, s) => doneUntil step done rest s
      | _ => []

/-- What is done by a line. -/
def doneByLine (s : Session) (line : String) : List Done :=
  [.line ⟨line, s⟩]

/-- What is done by the scripts and lines that the arguments name. -/
def doneInBatch (a : Arguments) (s : Session) : List Done :=
  doneUntil runScriptFile doneByScript a.scripts s ++
    match runUntil runScriptFile a.scripts s with
    | (.good, s) => doneUntil runLine doneByLine a.commands s
    | _ => []

/-- What is done by an answer. -/
def doneByAnswer (s : Session) : Answer → List Done
  | .line text => [.line ⟨text, s.note (.remembered text)⟩]
  | _ => []

/-- What is done in the interactive loop. -/
def doneInLoop (p : Prompting) : List Answer → Session → List Done
  | [], _ => []
  | answer :: rest, s =>
    doneByAnswer (s.ask p) answer ++
      match (s.ask p).accept answer with
      | (none, s) => doneInLoop p rest s
      | (some _, _) => []

end Session

namespace Arguments

/-- What is done to load the library that the arguments name. -/
def doneAtStart (a : Arguments) (s : Session) : List Done :=
  match a.library with
  | none => []
  | some library => [.line ⟨"load " ++ Text.quote library, s⟩]

/-- The session in front of what is done. Loading a driver that was not named is none of it. -/
def begun (a : Arguments) (s : Session) : Session :=
  match a.library with
  | none => (Session.start a { s with options := a.options }).2
  | some _ => { s with options := a.options }

/-- What is done in front of the interactive loop. -/
def doneBefore (a : Arguments) (s : Session) : List Done :=
  a.doneAtStart { s with options := a.options } ++
    match Session.start a { s with options := a.options } with
    | (true, s) => Session.doneInBatch a s
    | (false, _) => []

/-- The interactive loop is entered. -/
def Converses (a : Arguments) (s : Session) : Prop :=
  (a.prepare s).1 = none

instance (a : Arguments) (s : Session) : Decidable (a.Converses s) :=
  inferInstanceAs (Decidable (_ = _))

/-- What is done in a run. -/
def done (a : Arguments) (answers : List Answer) (s : Session) : List Done :=
  a.doneBefore s ++
    match a.prepare s with
    | (none, s) => Session.doneInLoop .printed answers s
    | (some _, _) => []

end Arguments

/-! ## One thing after the other -/

namespace Session

/-- Nothing is run on the way: the depth of scripts and the streams may change, and something else
may be noted down. -/
def Still (s s' : Session) : Prop :=
  ∃ depth out err events, s' = { s with depth, out, err, journal := events ++ s.journal } ∧
    ∀ n line, .ran n line ∉ events

variable {s s' s'' : Session}

theorem Still.refl (s : Session) : s.Still s :=
  ⟨s.depth, s.out, s.err, [], rfl, nofun⟩

theorem Still.trans (h : s.Still s') (h' : s'.Still s'') : s.Still s'' := by
  obtain ⟨_, _, _, earlier, rfl, hran⟩ := h
  obtain ⟨depth, out, err, later, rfl, hran'⟩ := h'
  refine ⟨depth, out, err, later ++ earlier, by rw [List.append_assoc], fun n line hm => ?_⟩
  rcases List.mem_append.1 hm with hm | hm
  · exact hran' n line hm
  · exact hran n line hm

theorem still_depth (s : Session) (depth : Nat) : s.Still { s with depth } :=
  ⟨depth, s.out, s.err, [], rfl, nofun⟩

theorem still_note (s : Session) {e : Event} (h : ∀ n line, e ≠ .ran n line) :
    s.Still (s.note e) :=
  ⟨s.depth, s.out, s.err, [e], rfl, fun n line hm => h n line (List.mem_singleton.1 hm).symm⟩

theorem still_ask (s : Session) (p : Prompting) : s.Still (s.ask p) := by
  cases p with
  | silent => exact still_note s nofun
  | printed => exact ⟨s.depth, _, s.err, [.prompted], rfl, by simp⟩

theorem still_report (s : Session) (line : String) (f : Failure) : s.Still (s.report line f) :=
  ⟨s.depth, s.out, _, [.reported line f], rfl, by simp⟩

theorem still_of_echo {l : ScriptLine} (h : (echo l).Gives s () s') : s.Still s' := by
  rw [eq_of_echo h]
  split
  · exact ⟨s.depth, _, s.err, [], rfl, nofun⟩
  · exact .refl s

/-- **One thing is done after the other**: each in the session that the one before it left, with
nothing run in between. -/
inductive Does : Session → List Done → Session → Prop
  | still {s s' : Session} : s.Still s' → Does s [] s'
  | next {s s' : Session} {d : Done} {ds : List Done} : s.Still d.before → Does d.after ds s' →
      Does s (d :: ds) s'

namespace Does

variable {ds ds' : List Done}

theorem of_still (h' : s'.Does ds s'') (h : s.Still s') : s.Does ds s'' := by
  cases h' with
  | still h' => exact .still (h.trans h')
  | next h' hlater => exact .next (h.trans h') hlater

theorem append (h : s.Does ds s') (h' : s'.Does ds' s'') : s.Does (ds ++ ds') s'' := by
  induction h with
  | still h => exact h'.of_still h
  | next hbefore _ ih => exact .next hbefore (ih h')

theorem still_trans (h : s.Does ds s') (h' : s'.Still s'') : s.Does ds s'' := by
  induction h with
  | still h => exact .still (h.trans h')
  | next hbefore _ ih => exact .next hbefore (ih h')

theorem line (s : Session) (line : String) : s.Does (doneByLine s line) (s.runLine line).2 :=
  .next (.refl s) (.still (.refl _))

end Does

end Session

/-! ## The account of a run -/

/-- **What was done accounts for an outcome**: it is all that was done, and the last of it came to
that outcome. -/
structure Account (s : Session) (ds : List Done) (o : Outcome) (s' : Session) : Prop where
  outcome : lastOutcome ds = o
  does : s.Does ds s'

namespace Account

variable {s s₁ s' : Session} {ds ds' : List Done} {o : Outcome}

theorem nil (h : s.Still s') : Account s [] .good s' :=
  ⟨rfl, .still h⟩

theorem of_still (h' : Account s₁ ds o s') (h : s.Still s₁) : Account s ds o s' :=
  ⟨h'.outcome, h'.does.of_still h⟩

theorem still_trans (h : Account s ds o s₁) (h' : s₁.Still s') : Account s ds o s' :=
  ⟨h.outcome, h.does.still_trans h'⟩

/-- What is done behind something good. -/
theorem append (h : Account s ds .good s₁) (h' : Account s₁ ds' o s') :
    Account s (ds ++ ds') o s' := by
  refine ⟨?_, h.does.append h'.does⟩
  have hlast := h.outcome
  have hlast' := h'.outcome
  unfold lastOutcome at hlast hlast' ⊢
  rw [List.getLast?_append]
  cases hd : ds'.getLast? with
  | none =>
    rw [hd] at hlast'
    exact hlast.trans hlast'
  | some d =>
    rw [hd] at hlast'
    exact hlast'

theorem line (s : Session) (line : String) :
    Account s (s.doneByLine line) (s.runLine line).1 (s.runLine line).2 :=
  ⟨rfl, .line s line⟩

/-- A script that is given up is the last thing that is done. -/
theorem giveUp (h : s.Does ds s') (path : String) :
    Account s (ds ++ [.script path s']) .fail s' := by
  refine ⟨?_, h.append (.next (.refl _) (.still (.refl _)))⟩
  rw [lastOutcome, List.getLast?_concat]
  rfl

end Account

namespace Session

variable {s s' : Session}

/-- **The lines of a script** account for its outcome; where an echo fails, they are what was done
until then. -/
theorem account_runLines (lines : List ScriptLine) (s : Session) :
    Action.Ensures (fun t => t = s) (runLines runScript lines)
      (fun o s' => Account s (doneByLines lines s) o s')
      (fun s' => s.Does (doneByLines lines s) s') := by
  induction lines generalizing s with
  | nil =>
    refine Action.Ensures.pure fun t ht => ?_
    rw [show t = s from ht]
    exact .nil (.refl s)
  | cons l rest ih =>
    intro t ht
    rw [show t = s from ht]
    rcases hecho : (echo l).run.run s with ⟨f | u, s₁⟩
    · rw [run_runLines_of_echo_error hecho, doneByLines, hecho]
      exact .still (.refl s)
    have hgives : (echo l).Gives s () s₁ := hecho
    have hstill := still_of_echo hgives
    have hline := Account.line s₁ l.text
    rw [doneByLines, hecho]
    dsimp only
    rcases hrun : s₁.runLine l.text with ⟨o, s₂⟩
    rw [hrun] at hline
    cases o with
    | good =>
      have hrest := ih s₂ s₂ rfl
      rw [run_runLines_of_good hgives hrun]
      dsimp only
      rcases hlater : (runLines runScript rest).run.run s₂ with ⟨f | o, s'⟩
      · rw [hlater] at hrest
        exact (hline.does.append hrest).of_still hstill
      · rw [hlater] at hrest
        exact (hline.append hrest).of_still hstill
    | quit | fail =>
      rw [run_runLines_of_stop hgives hrun (by decide)]
      exact hline.of_still hstill

theorem account_runScript (s : Session) (source : String) :
    Action.Ensures (fun t => t = s) (runScript source)
      (fun o s' => Account s (s.doneBySource source) o s')
      (fun s' => s.Does (s.doneBySource source) s') := by
  intro t ht
  rw [show t = s from ht]
  unfold doneBySource
  by_cases hlimit : s.depth < scriptDepthLimit
  · have hlines := account_runLines (ScriptLine.ofSource source) { s with depth := s.depth + 1 } _
      rfl
    rw [if_neg (Nat.not_le.2 hlimit)]
    rcases hrun : (runLines runScript (ScriptLine.ofSource source)).run.run
      { s with depth := s.depth + 1 } with ⟨f | o, s'⟩
    · rw [hrun] at hlines
      rw [run_runScript_of_lt hlimit hrun]
      exact (hlines.of_still (still_depth s _)).still_trans (still_depth s' _)
    · rw [hrun] at hlines
      rw [run_runScript_of_lt hlimit hrun]
      exact (hlines.of_still (still_depth s _)).still_trans (still_depth s' _)
  · rw [run_runScript, if_pos (Nat.not_lt.1 hlimit), if_pos (Nat.not_lt.1 hlimit)]
    exact .still (.refl s)

theorem runScriptFile_of_unreadable {path : String} {e : Files.FileError}
    (h : s.files.readText path = .error e) :
    s.runScriptFile path = (.fail, s.report "" ⟨.file e, none⟩) := by
  rw [runScriptFile, h]

/-- **A script from a file** accounts for its outcome. -/
theorem account_runScriptFile (s : Session) (path : String) :
    Account s (s.doneByScript path) (s.runScriptFile path).1 (s.runScriptFile path).2 := by
  cases hread : s.files.readText path with
  | error e =>
    rw [doneByScript, hread, runScriptFile_of_unreadable hread]
    have hnone : s.Does [] (s.report "" ⟨.file e, none⟩) := .still (still_report s "" _)
    exact .giveUp hnone path
  | ok source =>
    have hscript := account_runScript s source s rfl
    rcases hrun : (runScript source).run.run s with ⟨f | o, s'⟩
    · have hfile : s.runScriptFile path = (.fail, s'.report "" f) := by
        rw [runScriptFile, hread]
        dsimp only
        rw [hrun]
      rw [hrun] at hscript
      rw [doneByScript, hread, hfile]
      dsimp only
      rw [hrun]
      exact .giveUp (hscript.still_trans (still_report s' "" f)) path
    · have hfile : s.runScriptFile path = (o, s') := by
        rw [runScriptFile, hread]
        dsimp only
        rw [hrun]
      rw [hrun] at hscript
      rw [doneByScript, hread, hfile]
      dsimp only
      rwa [hrun, List.append_nil]

/-- **Steps that are run until one is not good** account for the outcome, if each step does. -/
theorem account_runUntil {α : Type} {step : Session → α → Outcome × Session}
    {done : Session → α → List Done}
    (h : ∀ s a, Account s (done s a) (step s a).1 (step s a).2) (as : List α) (s : Session) :
    Account s (doneUntil step done as s) (runUntil step as s).1 (runUntil step as s).2 := by
  induction as generalizing s with
  | nil => exact .nil (.refl s)
  | cons a rest ih =>
    have hstep := h s a
    unfold doneUntil runUntil
    rcases hrun : step s a with ⟨o, s₁⟩
    rw [hrun] at hstep
    cases o with
    | good => exact hstep.append (ih s₁)
    | quit => rwa [List.append_nil]
    | fail => rwa [List.append_nil]

theorem account_runBatch (a : Arguments) (s : Session) :
    Account s (doneInBatch a s) (runBatch a s).1 (runBatch a s).2 := by
  have hscripts := account_runUntil account_runScriptFile a.scripts s
  unfold doneInBatch runBatch
  rcases hrun : runUntil runScriptFile a.scripts s with ⟨o, s₁⟩
  rw [hrun] at hscripts
  cases o with
  | good => exact hscripts.append (account_runUntil Account.line a.commands s₁)
  | quit => rwa [List.append_nil]
  | fail => rwa [List.append_nil]

/-- A script that cannot be read is the end of a batch that begins with it. -/
theorem doneInBatch_of_unreadable {a : Arguments} {path : String} {rest : List String}
    {e : Files.FileError} (ha : a.scripts = path :: rest) (h : s.files.readText path = .error e) :
    doneInBatch a s = [.script path (s.runScriptFile path).2] := by
  have hdone : s.doneByScript path = [.script path (s.runScriptFile path).2] := by
    rw [doneByScript, h]
  unfold doneInBatch
  rw [ha]
  simp only [doneUntil, runUntil, hdone, runScriptFile_of_unreadable h, List.append_nil]

/-! ## The interactive loop -/

theorem accept_line (s : Session) (text : String) :
    s.accept (.line text) =
      (if (s.enterLine text).1 = .quit then some .quit else none, (s.enterLine text).2) := by
  unfold accept
  dsimp only
  rcases s.enterLine text with ⟨_ | _ | _, s₁⟩ <;> rfl

theorem does_accept (s : Session) (answer : Answer) :
    s.Does (s.doneByAnswer answer) (s.accept answer).2 := by
  cases answer with
  | line text =>
    rw [accept_line]
    exact .next (still_note s nofun) (.still (.refl _))
  | interrupted | finished | failed => exact .still (.refl s)

/-- **The loop** runs the lines that are entered. -/
theorem does_converse (p : Prompting) (answers : List Answer) (s : Session) :
    s.Does (doneInLoop p answers s) (converse p answers s).2 := by
  induction answers generalizing s with
  | nil => exact .still (still_ask s p)
  | cons answer rest ih =>
    have haccept := (does_accept (s.ask p) answer).of_still (still_ask s p)
    unfold doneInLoop converse
    rcases hrun : (s.ask p).accept answer with ⟨_ | o, s₁⟩
    · rw [hrun] at haccept
      exact haccept.append (ih s₁)
    · rw [hrun] at haccept
      rwa [List.append_nil]

/-- The loop does not end badly unless reading fails. -/
theorem fst_converse_ne_fail (p : Prompting) {answers : List Answer} (h : .failed ∉ answers)
    (s : Session) : (converse p answers s).1 ≠ .fail := by
  induction answers generalizing s with
  | nil => exact nofun
  | cons answer rest ih =>
    obtain ⟨hanswer, hrest⟩ := not_or.1 (mt List.mem_cons.2 h)
    unfold converse
    cases answer with
    | finished => exact nofun
    | failed => exact absurd rfl hanswer
    | interrupted => exact ih hrest _
    | line text =>
      rw [accept_line]
      by_cases hquit : ((s.ask p).enterLine text).1 = .quit
      · rw [if_pos hquit]
        exact nofun
      · rw [if_neg hquit]
        exact ih hrest _

end Session

/-! ## The run -/

namespace Arguments

open Session (Still)

variable {a : Arguments}

theorem command?_load_quote (library : String) :
    command? (Cursor.ofLine ("load " ++ Text.quote library)) = some .load := by
  have htokens := congrArg List.dropLast (Token.tokenize_load_quote library)
  have hscan : Token.scan 0 ("load " ++ Text.quote library).toList =
      [⟨.word, 0, "load"⟩, ⟨.quoted, 5, Text.quote library⟩] := by
    rwa [Token.tokenize, List.dropLast_concat] at htokens
  have hcursor : Cursor.ofLine ("load " ++ Text.quote library) = ⟨_, _⟩ :=
    congrArg (Cursor.mk _) hscan
  have hload : Text.choose "load" Command.name Command.all = .one .load := by decide
  rw [hcursor]
  generalize "load " ++ Text.quote library = line
  simp [command?, Cursor.current, Cursor.next, Cursor.hasMore, hload]

/-- Loading does not end a run. -/
theorem fst_load_ne_quit (s : Session) (library : String) :
    (s.runLine ("load " ++ Text.quote library)).1 ≠ .quit := by
  intro hquit
  obtain ⟨inner, -, htells, hplain⟩ := Session.journal_of_runLineWith Statement.journals_runScript
    ("load " ++ Text.quote library) s
  obtain ⟨depth, line, earlier, heq, hline⟩ := htells.quit hquit
  have hload := command?_load_quote library
  -- No further line is run, so the one that would quit is the line that loads.
  cases inner with
  | nil =>
    cases heq
    rw [hload] at hline
    cases hline
  | cons e inner =>
    have hran : .ran depth line ∈ e :: inner := by
      rw [List.cons_append] at heq
      rw [(List.cons.inj heq).1]
      exact List.mem_cons_self
    exact hplain (by rw [hload]; decide) depth line hran

/-- The start accounts for whether the run goes on. A driver that was not named need not be loaded.
-/
theorem account_start (a : Arguments) (s : Session) :
    ∃ o s₁, Account (a.begun s) (a.doneAtStart { s with options := a.options }) o s₁ ∧
      Session.start a { s with options := a.options } = (o == .good, s₁) ∧ o ≠ .quit := by
  unfold begun
  generalize { s with options := a.options } = s
  cases hlibrary : a.library with
  | none =>
    have hgoes : (Session.start a s).1 = true := by
      unfold Session.start
      cases a.loadLine? with
      | none => rfl
      | some line => simp [hlibrary]
    refine ⟨.good, (Session.start a s).2, ?_, Prod.ext hgoes rfl, nofun⟩
    rw [doneAtStart, hlibrary]
    exact .nil (.refl _)
  | some library =>
    have hstart : Session.start a s = ((s.runLine ("load " ++ Text.quote library)).1 == .good,
        (s.runLine ("load " ++ Text.quote library)).2) := by
      unfold Session.start loadLine?
      simp [hlibrary]
    refine ⟨_, _, ?_, hstart, fst_load_ne_quit s library⟩
    rw [doneAtStart, hlibrary]
    exact .line s _

/-- **In front of the loop** the status is that of the last outcome. -/
theorem account_prepare (a : Arguments) (s : Session) :
    ∃ o s', Account (a.begun s) (a.doneBefore s) o s' ∧
      a.prepare s =
        (if lastOutcome (a.doneAtStart { s with options := a.options }) = .good ∧
            Session.goesOn a o = true then none
          else some (.ofOutcome o), s') := by
  obtain ⟨o, s₁, hstart, hrun, hquit⟩ := a.account_start s
  unfold doneBefore prepare
  rw [hrun, hstart.outcome]
  cases o with
  | good =>
    have hbatch := hstart.append (Session.account_runBatch a s₁)
    refine ⟨_, _, hbatch, ?_⟩
    simp
  | quit => exact absurd rfl hquit
  | fail =>
    refine ⟨.fail, s₁, ?_, rfl⟩
    rwa [show (Outcome.fail == Outcome.good) = false from rfl, List.append_nil]

/-- **The loop is entered** unless a library that was named is not loaded or a line quits, if there
is nothing else to run or it is asked for. -/
theorem converses_iff (a : Arguments) (s : Session) :
    a.Converses s ↔ lastOutcome (a.doneAtStart { s with options := a.options }) = .good ∧
      lastOutcome (a.doneBefore s) ≠ .quit ∧ (a.hasBatch = false ∨ a.has .interactive = true) := by
  obtain ⟨o, s', haccount, hprepare⟩ := a.account_prepare s
  unfold Converses
  rw [hprepare, haccount.outcome]
  simp [Session.goesOn, imp_iff_not_or]

/-- A run with the loop ends as the loop does. -/
theorem run_of_converses {s : Session} (h : a.Converses s) (answers : List Answer) :
    a.done answers s = a.doneBefore s ++ Session.doneInLoop .printed answers (a.prepare s).2 ∧
      (a.run answers s).1 =
        .ofOutcome (Session.converse .printed answers (a.prepare s).2).1 ∧
      (a.run answers s).2 =
        (Session.converse .printed answers (a.prepare s).2).2.note .saved := by
  rcases hprepare : a.prepare s with ⟨status, s'⟩
  obtain rfl : status = none := (congrArg Prod.fst hprepare).symm.trans h
  unfold done run
  rw [hprepare]
  exact ⟨rfl, rfl, rfl⟩

/-- A run without the loop ends as the last of it did. -/
theorem run_of_not_converses {s : Session} (h : ¬ a.Converses s) (answers : List Answer) :
    a.done answers s = a.doneBefore s ∧
      a.run answers s = (.ofOutcome (lastOutcome (a.doneBefore s)), (a.prepare s).2) := by
  obtain ⟨o, s', haccount, hprepare⟩ := a.account_prepare s
  unfold Converses at h
  unfold done run
  rw [hprepare] at h ⊢
  rw [haccount.outcome]
  split at h
  · exact absurd rfl h
  · next hstays =>
    rw [if_neg hstays]
    exact ⟨List.append_nil _, rfl⟩

end Arguments

/-! ## A script that is not there -/

/-- Where there are no files no path leads to one. -/
theorem follow_of_no_files {here place : Files.Place} {parts : List String}
    {node : Option Files.Node}
    (h : ({} : Files.FileTree).follow here parts = .ok (place, node)) :
    ∀ bytes, node ≠ some (.file bytes) := by
  induction parts generalizing here with
  | nil =>
    cases h
    intro bytes
    unfold Files.FileTree.at?
    split <;> exact nofun
  | cons part rest ih =>
    unfold Files.FileTree.follow at h
    split at h
    · cases h
    · cases h
    · split at h
      · exact ih h
      split at h
      · exact ih h
      split at h
      · cases h
      · exact ih h

/-- Where there are no files no script can be read. -/
theorem exists_readText_of_no_files (path : String) :
    ∃ e, ({} : Files.FileTree).readText path = .error e := by
  have hresolve : ∀ place bytes,
      ({} : Files.FileTree).resolve path ≠ .ok (place, some (.file bytes)) := by
    intro place bytes h
    unfold Files.FileTree.resolve Files.FileTree.resolveParts at h
    split at h
    · cases h
    split at h
    · cases h
    split at h
    · cases h
    · exact follow_of_no_files h bytes rfl
  have hopened : ∀ bytes, ({} : Files.FileTree).opened path ≠ .ok (.file bytes) := by
    intro bytes h
    unfold Files.FileTree.opened at h
    split at h
    · cases h
    · cases h
    · next place bytes' hfile => exact hresolve place bytes' hfile
    · cases h
  unfold Files.FileTree.readText
  rcases hopen : ({} : Files.FileTree).opened path with e | bytes | _
  · exact ⟨e, rfl⟩
  · exact absurd hopen (hopened bytes)
  · exact ⟨_, rfl⟩

/-- The line that a thing done is, if it is one. -/
def Done.line? : Done → Option String
  | line r => some r.line
  | script _ _ => none

/-- A library that is loaded, and behind it a script that is not there. -/
theorem run_of_lost_script :
    let a : Arguments := { library := some "sim", scripts := ["lost"] }
    (a.done [] Session.driverless).map (fun d => (d.line?, d.outcome)) =
        [(some "load \"sim\"", .good), (none, .fail)] ∧
      (a.run [] Session.driverless).1 = .failure := by
  intro a
  let s₀ : Session := { Session.driverless with options := a.options }
  let s₁ : Session := (s₀.runLine ("load " ++ Text.quote "sim")).2
  have hgood : (s₀.runLine ("load " ++ Text.quote "sim")).1 = .good := by decide +kernel
  have hstart : Session.start a s₀ = (true, s₁) := Prod.ext (by decide +kernel) rfl
  have hfiles : s₁.files = {} := by
    have hnodes : s₁.files.nodes = [] := by decide +kernel
    have hplace : s₁.files.workingDirectory = [] := by decide +kernel
    exact congrArg₂ Files.FileTree.mk hnodes hplace
  obtain ⟨e, hunread⟩ := exists_readText_of_no_files "lost"
  rw [← hfiles] at hunread
  have hbefore : a.doneBefore Session.driverless =
      [.line ⟨"load " ++ Text.quote "sim", s₀⟩, .script "lost" (s₁.runScriptFile "lost").2] := by
    change _ ++ (match Session.start a s₀ with
      | (true, s) => Session.doneInBatch a s
      | (false, _) => []) = _
    rw [hstart]
    dsimp only
    rw [Session.doneInBatch_of_unreadable rfl hunread]
    rfl
  have hstays : ¬ a.Converses Session.driverless := fun h =>
    absurd ((a.converses_iff _).1 h).2.2 (by decide)
  obtain ⟨hdone, hrun⟩ := Arguments.run_of_not_converses hstays []
  have hline : "load " ++ Text.quote "sim" = "load \"sim\"" := by decide
  rw [hdone, hrun, hbefore]
  refine ⟨?_, rfl⟩
  change [(some _, (s₀.runLine _).1), (none, .fail)] = _
  rw [hgood, hline]

/-! ## The exit status -/

/-- **Whatever is asked for**, the status of a run is that of the last thing that is done, unless
the interactive loop is entered: then the run ends well. What is listed is all that is done. -/
theorem Arguments.status_of_run (a : Arguments) {answers : List Answer}
    (hanswers : .failed ∉ answers) (s : Session) :
    (a.run answers s).1 =
        (if a.Converses s then .success else .ofOutcome (lastOutcome (a.done answers s))) ∧
      (a.Converses s ↔ lastOutcome (a.doneAtStart { s with options := a.options }) = .good ∧
        lastOutcome (a.doneBefore s) ≠ .quit ∧ (a.hasBatch = false ∨ a.has .interactive = true)) ∧
      (a.begun s).Does (a.done answers s) (a.run answers s).2 := by
  have hbefore : (a.begun s).Does (a.doneBefore s) (a.prepare s).2 := by
    obtain ⟨o, s', haccount, hprepare⟩ := a.account_prepare s
    rw [hprepare]
    exact haccount.does
  refine ⟨?_, a.converses_iff s, ?_⟩
  · by_cases h : a.Converses s
    · rw [if_pos h, (Arguments.run_of_converses h answers).2.1]
      have hgood := Session.fst_converse_ne_fail .printed hanswers (a.prepare s).2
      generalize (Session.converse .printed answers (a.prepare s).2).1 = last at hgood ⊢
      cases last with
      | good | quit => rfl
      | fail => exact absurd rfl hgood
    · obtain ⟨hdone, hrun⟩ := Arguments.run_of_not_converses h answers
      rw [if_neg h, hdone, hrun]
  · by_cases h : a.Converses s
    · obtain ⟨hdone, -, hrun⟩ := Arguments.run_of_converses h answers
      rw [hdone, hrun]
      exact hbefore.append
        ((Session.does_converse _ _ _).still_trans (Session.still_note _ nofun))
    · obtain ⟨hdone, hrun⟩ := Arguments.run_of_not_converses h answers
      rw [hdone, hrun]
      exact hbefore

/-- **The exit status is that of the last thing that is done**, unless the interactive loop is
entered: then the run ends well. What is listed is all that is done. -/
theorem exit_status_of_last {arguments : List String} {a : Arguments}
    (hread : Arguments.read arguments = .ok a) {answers : List Answer}
    (hanswers : .failed ∉ answers) (s : Session) :
    (runProgram arguments answers s).1 =
        (if a.Converses s then .success else .ofOutcome (lastOutcome (a.done answers s))) ∧
      (a.Converses s ↔ lastOutcome (a.doneAtStart { s with options := a.options }) = .good ∧
        lastOutcome (a.doneBefore s) ≠ .quit ∧ (a.hasBatch = false ∨ a.has .interactive = true)) ∧
      (a.begun s).Does (a.done answers s) (runProgram arguments answers s).2 := by
  -- The arguments enter only by what is read from them.
  have hprogram : runProgram arguments answers s = a.run answers s := by rw [runProgram, hread]
  rw [hprogram]
  exact a.status_of_run hanswers s

/-- An unknown command behind a number: the run ends with a failure. -/
theorem exit_status_of_unknown_command :
    lastOutcome (Arguments.done { switches := [.noAutoLoad], commands := ["n = int(1)", "bogus"] }
        [] Session.driverless) = .fail ∧
      (runProgram ["--no-auto-load", "-c", "n = int(1)", "-c", "bogus"] []
        Session.driverless).1 = .failure := by
  let a : Arguments := { switches := [.noAutoLoad], commands := ["n = int(1)", "bogus"] }
  have hread : Arguments.read ["--no-auto-load", "-c", "n = int(1)", "-c", "bogus"] = .ok a := by
    decide +kernel
  have hlast : lastOutcome (a.done [] Session.driverless) = .fail := by decide +kernel
  have hloop : ¬ a.Converses Session.driverless := by decide +kernel
  have hstatus := (exit_status_of_last hread List.not_mem_nil Session.driverless).1
  rw [if_neg hloop, hlast] at hstatus
  exact ⟨hlast, hstatus⟩

/-- **The last line alone does not decide.** In the loop an unknown command is the last line, and
the run ends well; and a script that is not there gives a failure where the last line was good. -/
theorem exit_status_apart_from_last_line :
    (Arguments.read ["--no-auto-load"] = .ok { switches := [.noAutoLoad] } ∧
      (Arguments.done { switches := [.noAutoLoad] } [.line "bogus"] Session.driverless).map
        (fun d => (d.line?, d.outcome)) = [(some "bogus", .fail)] ∧
      (runProgram ["--no-auto-load"] [.line "bogus"] Session.driverless).1 = .success) ∧
    (Arguments.read ["sim", "-s", "lost"] = .ok { library := some "sim", scripts := ["lost"] } ∧
      (Arguments.done { library := some "sim", scripts := ["lost"] } [] Session.driverless).map
        (fun d => (d.line?, d.outcome)) = [(some "load \"sim\"", .good), (none, .fail)] ∧
      (runProgram ["sim", "-s", "lost"] [] Session.driverless).1 = .failure) := by
  have hread : Arguments.read ["sim", "-s", "lost"] =
      .ok { library := some "sim", scripts := ["lost"] } := by decide +kernel
  refine ⟨⟨?_, ?_, ?_⟩, hread, run_of_lost_script.1, ?_⟩
  · decide +kernel
  · decide +kernel
  · decide +kernel
  · rw [runProgram, hread]
    exact run_of_lost_script.2

end DriverBench
