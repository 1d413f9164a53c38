import DriverBench.Proofs.Command.Place
import DriverBench.Proofs.Command.Execute
import DriverBench.Proofs.Script.Run
import DriverBench.Proofs.Session.Reached
/-!
# Scripts end, and come back to the depth they started from

A line may run a script, and a script runs lines; files change on the way, so nothing in them bounds
this recursion. The depth does: one level deeper the limit is one level nearer, and at the limit a
script is refused. So the recursion, unfolded more often than there are levels left, has come to its
end (`runLineWith_unfolding`), whatever is put in the place of what would follow.

Nothing but a script changes the depth, and a script restores it however it ends.
-/

namespace DriverBench

namespace Session

/-! ## The depth -/

/-- The depth is the same again, and no line was run outside the levels below it. -/
structure Nested (levels : Nat) (s s' : Session) : Prop where
  depth : s'.depth = s.depth
  ran : ∃ events, s'.journal = events ++ s.journal ∧
    ∀ n line, .ran n line ∈ events → s.depth ≤ n ∧ n ≤ s.depth + levels

variable {levels : Nat}

/-- What adds nothing to the journal runs no line. -/
theorem nested_of_eq {s s' : Session} (hd : s'.depth = s.depth) (hj : s'.journal = s.journal) :
    s.Nested levels s' :=
  ⟨hd, [], hj, nofun⟩

theorem Nested.mono {levels' : Nat} {s s' : Session} (h : s.Nested levels s')
    (hle : levels ≤ levels') : s.Nested levels' s' := by
  obtain ⟨hd, events, he, hran⟩ := h
  refine ⟨hd, events, he, fun n line hm => ?_⟩
  have := hran n line hm
  omega

theorem Steady.nested {s s' : Session} (h : s.Steady s') : s.Nested levels s' :=
  nested_of_eq h.depth h.journal

instance : TalkFrame (Nested levels) where
  refl s := nested_of_eq rfl rfl
  trans := by
    rintro a b c ⟨hd, earlier, he, hran⟩ ⟨hd', later, hl, hran'⟩
    refine ⟨hd'.trans hd, later ++ earlier, by rw [hl, he, List.append_assoc], fun n line hm => ?_⟩
    rcases List.mem_append.1 hm with hm | hm
    · have := hran' n line hm
      omega
    · exact hran n line hm
  of_talks s s' h := (TalkFrame.of_talks (R := Steady) s s' h).nested

theorem nested_note_ran (s : Session) (line : String) :
    s.Nested levels (s.note (.ran s.depth line)) := by
  refine ⟨rfl, [.ran s.depth line], rfl, fun n l hm => ?_⟩
  obtain ⟨rfl, rfl⟩ := Event.ran.inj (List.mem_singleton.1 hm)
  omega

theorem nested_report (s : Session) (line : String) (f : Failure) :
    s.Nested levels (s.report line f) :=
  ⟨rfl, [.reported line f], rfl, by simp⟩

end Session

open Session (Nested Steady)

variable {runner : ScriptRunner} {levels : Nat}

/-- The lines of a script are run between the depth of the script and the levels below. -/
def ScriptRunner.Within (levels : Nat) (runner : ScriptRunner) : Prop :=
  ∀ source, Action.Within (Nested levels) (runner source)

namespace Statement

open Reading

theorem within_nested_perform (hr : runner.Within levels) (c : Command) :
    Within (Nested levels) (perform runner c) := by
  by_cases hc : c = .script
  · subst hc
    change Within (Nested levels) (script runner)
    unfold script
    refine within_bind within_pathArgument fun path => ?_
    refine within_bind (within_warnTrailing _) fun _ => within_bind within_session fun s => ?_
    split
    · exact within_raise _ _
    · exact within_liftM (Action.within_atSpan (hr _) _)
  · exact (within_steady_perform runner hc).mono fun _ _ h => h.nested

theorem within_nested_execute (hr : runner.Within levels) :
    Within (Nested levels) (execute runner) := by
  unfold execute
  refine within_bind within_cursor fun c => ?_
  split
  · exact within_pure _
  · exact within_throw _
  · refine within_ite (within_steady_assignment.mono fun _ _ h => h.nested) ?_
    exact within_bind within_commandName fun c => within_nested_perform hr c

end Statement

namespace Session

theorem nested_runLineWith (hr : runner.Within levels) (line : String) (s : Session) :
    s.Nested levels (runLineWith runner line s).2 := by
  have hnote : s.Nested levels (s.note (.ran s.depth line)) := nested_note_ran s line
  have hexecute := Statement.within_nested_execute hr (Cursor.ofLine line)
    (s.note (.ran s.depth line))
  unfold runLineWith executeWith
  dsimp only
  rcases hx : (Statement.execute runner).run (Cursor.ofLine line) (s.note (.ran s.depth line)) with
    ⟨⟨f | o, c⟩, s'⟩
  · rw [hx] at hexecute
    have hdrop : s'.Nested levels s'.dropTemporaries := (steady_dropTemporaries s').nested
    exact Frame.trans hnote (Frame.trans hexecute (Frame.trans hdrop (nested_report _ line f)))
  · rw [hx] at hexecute
    have hdrop : s'.Nested levels s'.dropTemporaries := (steady_dropTemporaries s').nested
    exact Frame.trans hnote (Frame.trans hexecute hdrop)

end Session

theorem within_nested_runLines (hr : runner.Within levels) (lines : List ScriptLine) :
    Action.Within (Nested levels) (runLines runner lines) := by
  induction lines with
  | nil => exact Action.within_pure _
  | cons line rest ih =>
    unfold runLines
    refine Action.within_bind (Action.within_echo line) fun _ => ?_
    refine Action.within_bind (fun s => Session.nested_runLineWith hr line.text s) fun o => ?_
    split
    · exact ih
    · exact Action.within_pure _

/-- One level deeper there is one level less. -/
theorem within_nested_deeper {α : Type} {a : Action α} (h : Action.Within (Nested levels) a) :
    Action.Within (Nested (levels + 1)) (deeper a) := by
  intro s
  obtain ⟨hd, events, he, hran⟩ := h { s with depth := s.depth + 1 }
  rw [Action.run_deeper]
  refine ⟨by dsimp only; rw [hd]; rfl, events, he, fun n line hm => ?_⟩
  have hn := hran n line hm
  dsimp only at hn
  omega

theorem within_runScriptWithin (levels : Nat) : (runScriptWithin levels).Within levels := by
  induction levels with
  | zero => exact fun _ => Action.within_raise _
  | succ levels ih => exact fun _ => within_nested_deeper (within_nested_runLines ih _)

/-! ## Runners that agree at a depth -/

/-- Two ways to run scripts come to the same at a depth. -/
def ScriptRunner.AgreesAt (depth : Nat) (runner runner' : ScriptRunner) : Prop :=
  ∀ source s, s.depth = depth → (runner source).run.run s = (runner' source).run.run s

variable {runner' : ScriptRunner} {depth : Nat}

/-- Two readings that begin alike and go on alike come to the same. -/
theorem Reading.run_bind_congr {α β : Type} {R : Session → Session → Prop} {r : Reading α}
    {f g : α → Reading β} {c : Cursor} {s : Session} (h : Reading.Within R r)
    (hfg : ∀ a c' s', R s s' → (f a).run c' s' = (g a).run c' s') :
    (r >>= f).run c s = (r >>= g).run c s := by
  have hR := h c s
  rw [run_bind, run_bind]
  rcases hr : r.run c s with ⟨⟨e | a, c'⟩, s'⟩
  · rfl
  · rw [hr] at hR
    exact hfg a c' s' hR

theorem Action.run_bind_congr {α β : Type} {R : Session → Session → Prop} {a : Action α}
    {f g : α → Action β} {s : Session} (h : Within R a)
    (hfg : ∀ x s', R s s' → (f x).run.run s' = (g x).run.run s') :
    (a >>= f).run.run s = (a >>= g).run.run s := by
  have hR := h s
  rw [run_bind, run_bind]
  rcases hr : a.run.run s with ⟨e | x, s'⟩
  · rfl
  · rw [hr] at hR
    exact hfg x s' hR

namespace Statement

open Reading

theorem run_perform_congr (h : runner.AgreesAt depth runner') (command : Command) (c : Cursor)
    {s : Session} (hs : s.depth = depth) :
    (perform runner command).run c s = (perform runner' command).run c s := by
  by_cases hc : command = .script
  · subst hc
    change (script runner).run c s = (script runner').run c s
    unfold script
    refine run_bind_congr (R := Steady) within_pathArgument fun path c₁ s₁ h₁ => ?_
    refine run_bind_congr (R := Steady) (within_warnTrailing _) fun _ c₂ s₂ h₂ => ?_
    refine run_bind_congr (R := fun s s' => s' = s) within_session fun s₃ c₄ s₄ h₄ => ?_
    split
    · rfl
    · next source _ =>
      have hd : s₄.depth = depth := by rw [h₄, h₂.depth, h₁.depth, hs]
      change (match ((runner source).atSpan path.2).run.run s₄ with | (x, s') => ((x, c₄), s')) =
        match ((runner' source).atSpan path.2).run.run s₄ with | (x, s') => ((x, c₄), s')
      rw [Action.run_atSpan, Action.run_atSpan, h source s₄ hd]
  · cases command <;> first | rfl | contradiction

theorem run_execute_congr (h : runner.AgreesAt depth runner') (c : Cursor) {s : Session}
    (hs : s.depth = depth) : (execute runner).run c s = (execute runner').run c s := by
  unfold execute
  refine run_bind_congr (R := fun s s' => s' = s) within_cursor fun c₁ c₂ s₁ h₁ => ?_
  subst h₁
  split
  · rfl
  · rfl
  · split
    · rfl
    · refine run_bind_congr (R := fun s s' => s' = s) within_commandName fun command c₃ s₂ h₂ => ?_
      subst h₂
      exact run_perform_congr h command c₃ hs

end Statement

theorem Session.runLineWith_congr (h : runner.AgreesAt depth runner') (line : String)
    {s : Session} (hs : s.depth = depth) :
    runLineWith runner line s = runLineWith runner' line s := by
  have hnoted : (s.note (.ran s.depth line)).depth = depth := hs
  unfold runLineWith executeWith
  dsimp only
  rw [Statement.run_execute_congr h (Cursor.ofLine line) hnoted]

/-- Lines run alike where scripts do, if the depth behind a line is the same again. -/
theorem run_runLines_congr (h : runner.AgreesAt depth runner') (hr : runner'.Within levels)
    (lines : List ScriptLine) {s : Session} (hs : s.depth = depth) :
    (runLines runner lines).run.run s = (runLines runner' lines).run.run s := by
  induction lines generalizing s with
  | nil => rfl
  | cons line rest ih =>
    unfold runLines
    refine Action.run_bind_congr (Action.within_echo (R := Steady) line) fun _ s₁ h₁ => ?_
    have hd₁ : s₁.depth = depth := h₁.depth.trans hs
    have hline := Session.runLineWith_congr h line.text hd₁
    have hd₂ : (Session.runLineWith runner' line.text s₁).2.depth = depth :=
      (Session.nested_runLineWith hr line.text s₁).depth.trans hd₁
    rw [Action.run_modifyGet_bind, Action.run_modifyGet_bind, hline]
    split
    · exact ih hd₂
    · rfl

/-! ## The recursion of scripts -/

/-- **The recursion of scripts**: one is refused at the limit, and elsewhere it is run by its lines,
whose scripts are run in the same way, one level deeper. -/
theorem run_runScript (source : String) (s : Session) :
    (runScript source).run.run s =
      if scriptDepthLimit ≤ s.depth then (.error { fault := .scriptTooDeep }, s)
      else (deeper (runLines runScript (ScriptLine.ofSource source))).run.run s := by
  have hrun : (runScript source).run.run s =
      (runScriptWithin (scriptDepthLimit - s.depth) source).run.run s := rfl
  rw [hrun]
  by_cases h : scriptDepthLimit ≤ s.depth
  · rw [if_pos h, Nat.sub_eq_zero_of_le h]
    rfl
  · rw [if_neg h]
    obtain ⟨levels, hlevels⟩ : ∃ levels, scriptDepthLimit - s.depth = levels + 1 :=
      ⟨scriptDepthLimit - s.depth - 1, by omega⟩
    -- One level deeper, running a script is running it with a level less.
    have hagrees : runScript.AgreesAt (s.depth + 1) (runScriptWithin levels) := by
      intro source' s' hs'
      have hleft : scriptDepthLimit - s'.depth = levels := by omega
      rw [← hleft]
      rfl
    rw [hlevels, runScriptWithin, Action.run_deeper, Action.run_deeper,
      run_runLines_congr hagrees (within_runScriptWithin levels) _ rfl]

theorem within_runScript : runScript.Within scriptDepthLimit := fun source s =>
  (within_runScriptWithin (scriptDepthLimit - s.depth) source s).mono (Nat.sub_le _ _)

/-- The recursion of scripts, unfolded a number of times. What would follow is something else. -/
def unfolding (bottom : ScriptRunner) : Nat → ScriptRunner
  | 0 => bottom
  | n + 1 => fun source => do
    if scriptDepthLimit ≤ (← get).depth then Action.raise .scriptTooDeep
    else deeper (runLines (unfolding bottom n) (ScriptLine.ofSource source))

/-- **Running scripts comes to its end** within the levels that are left: unfolded more often than
that, the recursion has nothing left that depends on what would follow. -/
theorem agreesAt_unfolding (bottom : ScriptRunner) {n depth : Nat}
    (h : scriptDepthLimit - depth < n) : (unfolding bottom n).AgreesAt depth runScript := by
  induction n generalizing depth with
  | zero => omega
  | succ n ih =>
    intro source s hs
    rw [run_runScript, unfolding, Action.run_get_bind]
    by_cases hd : scriptDepthLimit ≤ s.depth
    · rw [if_pos hd, if_pos hd]
      rfl
    · have hdeeper : (unfolding bottom n).AgreesAt (s.depth + 1) runScript := ih (by omega)
      rw [if_neg hd, if_neg hd, Action.run_deeper, Action.run_deeper,
        run_runLines_congr hdeeper within_runScript _ rfl]

namespace Session

theorem runLineWith_unfolding (bottom : ScriptRunner) {n : Nat} (s : Session)
    (h : scriptDepthLimit - s.depth < n) (line : String) :
    runLineWith (unfolding bottom n) line s = s.runLine line :=
  runLineWith_congr (agreesAt_unfolding bottom h) line rfl

/-! ## Back at the depth -/

/-- The depth is what it was, and every line on the way was run at a depth up to the limit. -/
def Returns (s s' : Session) : Prop :=
  s'.depth = s.depth ∧ ∃ events, s'.journal = events ++ s.journal ∧
    ∀ n line, .ran n line ∈ events → s.depth ≤ n ∧ n ≤ scriptDepthLimit

theorem Nested.returns {s s' : Session} (h : s.Nested (scriptDepthLimit - s.depth) s')
    (hs : s.depth ≤ scriptDepthLimit) : s.Returns s' := by
  obtain ⟨hd, events, he, hran⟩ := h
  refine ⟨hd, events, he, fun n line hm => ?_⟩
  have := hran n line hm
  omega

theorem nested_runLine (s : Session) (line : String) :
    s.Nested (scriptDepthLimit - s.depth) (s.runLine line).2 := by
  have hagrees : runScript.AgreesAt s.depth (runScriptWithin (scriptDepthLimit - s.depth)) := by
    intro source s' hs'
    rw [← hs']
    rfl
  unfold runLine
  rw [runLineWith_congr hagrees line rfl]
  exact nested_runLineWith (within_runScriptWithin _) line s

theorem nested_runScript (s : Session) (source : String) :
    s.Nested (scriptDepthLimit - s.depth) ((runScript source).run.run s).2 :=
  within_runScriptWithin _ source s

theorem nested_runScriptFile (s : Session) (path : String) :
    s.Nested (scriptDepthLimit - s.depth) (s.runScriptFile path).2 := by
  unfold runScriptFile
  cases s.files.readText path with
  | error e => exact nested_report s "" _
  | ok source =>
    have hrun := nested_runScript s source
    dsimp only
    rcases hr : (runScript source).run.run s with ⟨f | o, s'⟩
    · rw [hr] at hrun
      exact Frame.trans hrun (nested_report s' "" f)
    · rw [hr] at hrun
      exact hrun

/-- **Scripts end, and the depth is what it was.** Whatever the files hold and whatever becomes of
them on the way, a line and a script are run to their end within the levels that are left; a script
is entered below the limit only; and however they end, they leave the depth as it was. The loops
over the parts of a line end as well: they go on only behind a token that they have taken. -/
theorem scripts_return (s : Session) (hs : s.depth ≤ scriptDepthLimit) :
    (∀ (bottom : ScriptRunner) (n : Nat), scriptDepthLimit - s.depth < n →
      (∀ line, runLineWith (unfolding bottom n) line s = s.runLine line) ∧
      ∀ source, (unfolding bottom n source).run.run s = (runScript source).run.run s) ∧
    (∀ source, (runScript source).run.run s =
      if s.depth < scriptDepthLimit then
        (deeper (runLines runScript (ScriptLine.ofSource source))).run.run s
      else (.error { fault := .scriptTooDeep }, s)) ∧
    (∀ line, s.Returns (s.runLine line).2) ∧
    (∀ source, s.Returns ((runScript source).run.run s).2) ∧
    (∀ path, s.Returns (s.runScriptFile path).2) ∧
    ∀ line, (∀ type, Reading.Unrolls line (Reading.arrayElement type)) ∧
      Reading.Unrolls line Reading.workDimension ∧
      (∀ globalSize, Reading.Unrolls line (Statement.launchItem globalSize)) ∧
      Reading.Unrolls line Statement.boundValue ∧
      Reading.Unrolls line Statement.releasedName := by
  refine ⟨fun bottom n h => ⟨runLineWith_unfolding bottom s h, fun source => ?_⟩, fun source => ?_,
    fun line => (nested_runLine s line).returns hs,
    fun source => (nested_runScript s source).returns hs,
    fun path => (nested_runScriptFile s path).returns hs, fun line => ?_⟩
  · exact agreesAt_unfolding bottom h source s rfl
  · rw [run_runScript]
    by_cases h : s.depth < scriptDepthLimit
    · rw [if_pos h, if_neg (by omega)]
    · rw [if_neg h, if_pos (by omega)]
  · exact ⟨Reading.unrolls_arrayElement, Reading.unrolls_workDimension,
      Statement.unrolls_launchItem, Statement.unrolls_boundValue, Statement.unrolls_releasedName⟩

/-- A session inside scripts, one level above the limit. -/
def nearLimit : Session :=
  { after [] with depth := 31 }

/-- A script that stops at a line that fails leaves the depth as it was. -/
theorem scripts_return_of_failure :
    nearLimit.depth ≤ scriptDepthLimit ∧
      ((runScript "a = int(1)\nb = c\nquit").run.run nearLimit).1 = .ok .fail ∧
      nearLimit.Returns ((runScript "a = int(1)\nb = c\nquit").run.run nearLimit).2 := by
  have hs : nearLimit.depth ≤ scriptDepthLimit := by decide
  have hfail : (match ((runScript "a = int(1)\nb = c\nquit").run.run nearLimit).1 with
      | .ok o => o
      | .error _ => .good) = .fail := by decide +kernel
  obtain ⟨-, -, -, hreturns, -, -⟩ := scripts_return nearLimit hs
  refine ⟨hs, ?_, hreturns _⟩
  rcases hr : ((runScript "a = int(1)\nb = c\nquit").run.run nearLimit).1 with f | o
  · rw [hr] at hfail
    cases hfail
  · rw [hr] at hfail
    exact congrArg Except.ok hfail

end Session

end DriverBench
