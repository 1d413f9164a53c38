import DriverBench.Proofs.Script.Shown
import DriverBench.Proofs.Script.Source
/-!
# Scripts one after another

A script is its lines, and its lines are run one after another; so two scripts with a line feed
between them are run as the one and then, if that was good, as the other one
(`run_runScript_append`). The depth that the first one leaves is the one that it found, and the
second one finds it again.

A script is refused at the limit of depth, and then no line is executed. Elsewhere lines are
executed from the first one on (`Sequence`), and the run ends in one of three ways (`Ends`): behind
the last line, at the first line that is not good, or in front of a line that is to be echoed on an
output that takes nothing. The journal has the lines that were executed, at the depth of the script,
and no others at that depth: whatever a line runs in turn is run further down (`Session.Below`).
-/

namespace DriverBench

open Session (Steady)

variable {l : ScriptLine} {lines rest : List ScriptLine} {s s' t : Session} {rs : List Executed}

/-! ## Lines behind lines -/

theorem run_runLines_append (xs ys : List ScriptLine) (s : Session) :
    (runLines runScript (xs ++ ys)).run.run s =
      match (runLines runScript xs).run.run s with
      | (.ok .good, t) => (runLines runScript ys).run.run t
      | stopped => stopped := by
  induction xs generalizing s with
  | nil => rfl
  | cons l xs ih =>
    rw [List.cons_append]
    rcases hecho : (echo l).run.run s with ⟨f | u, s₁⟩
    · rw [run_runLines_of_echo_error hecho, run_runLines_of_echo_error hecho]
    rcases hline : s₁.runLine l.text with ⟨o, s₂⟩
    by_cases ho : o = .good
    · subst ho
      rw [run_runLines_of_good hecho hline, run_runLines_of_good hecho hline, ih]
    · rw [run_runLines_of_stop hecho hline ho, run_runLines_of_stop hecho hline ho]
      cases o with
      | good => exact absurd rfl ho
      | fail => rfl
      | quit => rfl

theorem depth_runLines (lines : List ScriptLine) (s : Session) :
    ((runLines runScript lines).run.run s).2.depth = s.depth :=
  (within_nested_runLines within_runScript lines s).depth

/-- Runs a script and, if that was good, another one. -/
def runScriptThen (a b : String) : Action Outcome := do
  match ← runScript a with
  | .good => runScript b
  | outcome => return outcome

theorem run_runScriptThen (a b : String) (s : Session) :
    (runScriptThen a b).run.run s =
      match (runScript a).run.run s with
      | (.ok .good, t) => (runScript b).run.run t
      | stopped => stopped := by
  rw [runScriptThen, Action.run_bind]
  rcases (runScript a).run.run s with ⟨f | o, t⟩
  · rfl
  · cases o <;> rfl

/-- **Scripts compose**: with a line feed between them they are run one after the other, the second
one only if the first one was good. -/
theorem run_runScript_append (a b : String) (s : Session) :
    (runScript (a ++ "\n" ++ b)).run.run s = (runScriptThen a b).run.run s := by
  rw [run_runScriptThen]
  by_cases hlimit : scriptDepthLimit ≤ s.depth
  · rw [run_runScript, run_runScript, if_pos hlimit, if_pos hlimit]
  have hdepth := depth_runLines (ScriptLine.ofSource a) { s with depth := s.depth + 1 }
  rw [run_runScript, run_runScript a, if_neg hlimit, if_neg hlimit, Action.run_deeper,
    Action.run_deeper, ScriptLine.ofSource_append, run_runLines_append]
  rcases hrun : (runLines runScript (ScriptLine.ofSource a)).run.run
    { s with depth := s.depth + 1 } with ⟨f | o, t⟩
  · rfl
  rw [hrun] at hdepth
  cases o with
  | good =>
    -- The second script goes down to where the first one has been.
    have hup : t.depth = s.depth + 1 := hdepth
    have hagain : { t with depth := t.depth - 1 + 1 } = t := by
      rw [show t.depth - 1 + 1 = t.depth by omega]
    dsimp only
    rw [run_runScript, if_neg (by rw [hdepth]; exact hlimit), Action.run_deeper]
    dsimp only
    rw [hagain]
  | fail => rfl
  | quit => rfl

/-! ## The lines in the journal -/

/-- The lines that were run at a depth, in their order. -/
def linesAt (depth : Nat) (events : List Event) : List String :=
  events.reverse.filterMap fun
    | .ran n line => if n = depth then some line else none
    | _ => none

theorem linesAt_append (depth : Nat) (later earlier : List Event) :
    linesAt depth (later ++ earlier) = linesAt depth earlier ++ linesAt depth later := by
  rw [linesAt, List.reverse_append, List.filterMap_append]
  rfl

theorem linesAt_eq_nil {depth : Nat} {events : List Event}
    (h : ∀ n line, .ran n line ∈ events → depth < n) : linesAt depth events = [] := by
  refine List.filterMap_eq_nil_iff.2 fun e he => ?_
  cases e with
  | ran n line =>
    have hlt := h n line (List.mem_reverse.1 he)
    exact if_neg (Nat.ne_of_gt hlt)
  | _ => rfl

namespace Session

/-- The lines that were run at a depth since a session. -/
def linesSince (s : Session) (depth : Nat) (s' : Session) : List String :=
  linesAt depth (s'.journal.take (s'.journal.length - s.journal.length))

theorem linesSince_eq {depth : Nat} {events : List Event} (h : s'.journal = events ++ s.journal) :
    s.linesSince depth s' = linesAt depth events := by
  have hlength : s'.journal.length - s.journal.length = events.length := by
    rw [h, List.length_append]
    omega
  rw [linesSince, hlength, h, List.take_left]

/-- The depth is the same, and lines were run further down only. -/
structure Below (s s' : Session) : Prop where
  depth : s'.depth = s.depth
  ran : ∃ events, s'.journal = events ++ s.journal ∧ ∀ n line, .ran n line ∈ events → s.depth < n

theorem Steady.below (h : s.Steady s') : s.Below s' :=
  ⟨h.depth, [], h.journal, fun _ _ hm => absurd hm List.not_mem_nil⟩

instance : TalkFrame Below where
  refl s := Steady.below (Frame.refl s)
  trans := by
    rintro a b c ⟨hd, earlier, he, hran⟩ ⟨hd', later, hl, hran'⟩
    refine ⟨hd'.trans hd, later ++ earlier, by rw [hl, he, List.append_assoc], fun n line hm => ?_⟩
    rcases List.mem_append.1 hm with hm | hm
    · exact hd ▸ hran' n line hm
    · exact hran n line hm
  of_talks s s' h := (TalkFrame.of_talks (R := Steady) s s' h).below

theorem below_report (s : Session) (line : String) (f : Failure) : s.Below (s.report line f) :=
  ⟨rfl, [.reported line f], rfl, by simp⟩

end Session

open Session (Below driverless)

/-- The lines of a script are run one level below the line that asks for it. -/
theorem within_below_runScript (source : String) : Action.Within Below (runScript source) := by
  intro s
  rw [run_runScript]
  split
  · exact Frame.refl s
  · obtain ⟨hd, events, he, hran⟩ := within_nested_runLines within_runScript
      (ScriptLine.ofSource source) { s with depth := s.depth + 1 }
    rw [Action.run_deeper]
    refine ⟨by dsimp only; rw [hd]; rfl, events, he, fun n line hm => ?_⟩
    have hn := hran n line hm
    dsimp only at hn
    omega

namespace Session

/-- **A line** is an entry of the journal; what is above it is further down in scripts. -/
theorem exists_journal_runLine (s : Session) (line : String) :
    (s.runLine line).2.depth = s.depth ∧ ∃ events,
      (s.runLine line).2.journal = events ++ s.journal ∧ linesAt s.depth events = [line] := by
  have hbelow : (s.note (.ran s.depth line)).Below (s.runLine line).2 :=
    within_behind_note (fun t => (steady_dropTemporaries t).below) below_report
      (within_execute_of_steady (fun _ _ h => h.below) within_below_runScript _ _)
  obtain ⟨hd, inner, hj, hran⟩ := hbelow
  refine ⟨hd, inner ++ [.ran s.depth line], by rw [hj, List.append_assoc]; rfl, ?_⟩
  have hinner : linesAt s.depth inner = [] := linesAt_eq_nil hran
  rw [linesAt_append, hinner, List.append_nil]
  simp [linesAt]

end Session

/-! ## The lines that are executed -/

/-- **Lines one after another**, whatever they come to, each of them echoed first. -/
inductive Sequence : List ScriptLine → Session → List Executed → Session → Prop
  | done (s : Session) : Sequence [] s [] s
  | next {l : ScriptLine} {rest : List ScriptLine} {s s₁ s' : Session} {rs : List Executed} :
      (echo l).Gives s () s₁ → Sequence rest (s₁.runLine l.text).2 rs s' →
      Sequence (l :: rest) s (⟨l.text, s₁⟩ :: rs) s'

/-- **How a script ends**: behind its last line, and all of them were good; at the first line that
is not good; or in front of a line whose echo cannot be written, and all before it were good. -/
def Ends (rs : List Executed) (rest : List ScriptLine) (t : Session) :
    Except Failure Outcome → Prop
  | .ok .good => rest = [] ∧ ∀ r ∈ rs, r.outcome = .good
  | .ok o => ∃ earlier last, rs = earlier ++ [last] ∧ (∀ r ∈ earlier, r.outcome = .good) ∧
      last.outcome = o
  | .error f => (∀ r ∈ rs, r.outcome = .good) ∧ ∃ l later why, rest = l :: later ∧ t.Echoes l ∧
      t.out.broken = some why ∧ f = { fault := .output why }

/-- The journal has the lines at their depth. -/
theorem Sequence.journal (h : Sequence lines s rs s') :
    s'.depth = s.depth ∧ ∃ events, s'.journal = events ++ s.journal ∧
      linesAt s.depth events = lines.map (·.text) := by
  induction h with
  | done s => exact ⟨rfl, [], rfl, rfl⟩
  | @next l rest s s₁ s' rs hecho _ ih =>
    have hsteady : s.Steady s₁ := by
      have hw := Action.within_echo (R := Steady) l s
      rwa [hecho] at hw
    obtain ⟨hdepth, events, hj, hline⟩ := s₁.exists_journal_runLine l.text
    obtain ⟨hdepth', events', hj', hlines⟩ := ih
    have hsame : (s₁.runLine l.text).2.depth = s.depth := hdepth.trans hsteady.depth
    refine ⟨hdepth'.trans hsame, events' ++ events, ?_, ?_⟩
    · rw [hj', hj, hsteady.journal, List.append_assoc]
    · rw [hsame] at hlines
      rw [hsteady.depth] at hline
      rw [linesAt_append, hline, hlines]
      rfl

theorem Ends.cons {r : Executed} {a : Except Failure Outcome} (h : Ends rs rest t a)
    (hr : r.outcome = .good) : Ends (r :: rs) rest t a := by
  rcases a with f | o
  · obtain ⟨hgood, hecho⟩ := h
    exact ⟨List.forall_mem_cons.2 ⟨hr, hgood⟩, hecho⟩
  cases o with
  | good => exact ⟨h.1, List.forall_mem_cons.2 ⟨hr, h.2⟩⟩
  | fail =>
    obtain ⟨earlier, last, rfl, hgood, hlast⟩ := h
    exact ⟨r :: earlier, last, rfl, List.forall_mem_cons.2 ⟨hr, hgood⟩, hlast⟩
  | quit =>
    obtain ⟨earlier, last, rfl, hgood, hlast⟩ := h
    exact ⟨r :: earlier, last, rfl, List.forall_mem_cons.2 ⟨hr, hgood⟩, hlast⟩

theorem ends_of_stop {r : Executed} (hr : r.outcome ≠ .good) :
    Ends [r] rest t (.ok r.outcome) := by
  cases ho : r.outcome with
  | good => exact absurd ho hr
  | fail => exact ⟨[], r, rfl, List.forall_mem_nil _, ho⟩
  | quit => exact ⟨[], r, rfl, List.forall_mem_nil _, ho⟩

/-- **Lines are executed** from the first one on, as far as the run goes. -/
theorem exists_sequence_of_runLines (lines : List ScriptLine) (s : Session) :
    ∃ done rest rs, lines = done ++ rest ∧
      Sequence done s rs ((runLines runScript lines).run.run s).2 ∧
      Ends rs rest ((runLines runScript lines).run.run s).2
        ((runLines runScript lines).run.run s).1 := by
  induction lines generalizing s with
  | nil => exact ⟨[], [], [], rfl, .done s, rfl, List.forall_mem_nil _⟩
  | cons l lines ih =>
    rcases hecho : (echo l).run.run s with ⟨f | u, s₁⟩
    · obtain ⟨-, hechoes, why, hbroken, rfl⟩ := eq_of_echo_error hecho
      rw [run_runLines_of_echo_error hecho]
      exact ⟨[], l :: lines, [], rfl, .done s, List.forall_mem_nil _, l, lines, why, rfl, hechoes,
        hbroken, rfl⟩
    rcases hline : s₁.runLine l.text with ⟨o, s₂⟩
    have hafter : (s₁.runLine l.text).2 = s₂ := by rw [hline]
    have houtcome : (⟨l.text, s₁⟩ : Executed).outcome = o := by rw [Executed.outcome, hline]
    by_cases ho : o = .good
    · subst ho
      obtain ⟨done, rest, rs, heq, hsequence, hends⟩ := ih s₂
      rw [run_runLines_of_good hecho hline]
      exact ⟨l :: done, rest, ⟨l.text, s₁⟩ :: rs, by rw [heq]; rfl,
        .next hecho (hafter ▸ hsequence), hends.cons houtcome⟩
    · rw [run_runLines_of_stop hecho hline ho]
      refine ⟨[l], lines, [⟨l.text, s₁⟩], rfl, .next hecho (hafter ▸ .done s₂), ?_⟩
      rw [← houtcome] at ho ⊢
      exact ends_of_stop ho

/-! ## Scripts -/

/-- **Scripts compose, and execute their lines in order.** Two scripts with a line feed between them
come to what the first one comes to and then, if that is good, to what the second one comes to, in
the same session. A script is refused at the limit of depth, and nothing is executed. Below the
limit its lines are executed in their order from the first one on: up to and with the first one that
is not good, whose outcome is that of the script; or up to a line whose echo cannot be written, and
the script fails; or else all of them. The journal has just these lines at the depth of the script.
-/
theorem scripts_compose (s : Session) :
    (∀ a b : String, (runScript (a ++ "\n" ++ b)).run.run s = (runScriptThen a b).run.run s) ∧
    ∀ source : String,
      (scriptDepthLimit ≤ s.depth →
        (runScript source).run.run s = (.error { fault := .scriptTooDeep }, s)) ∧
      (s.depth < scriptDepthLimit → ∃ done rest rs t,
        ScriptLine.ofSource source = done ++ rest ∧
        commandLines source = done.map (·.text) ++ rest.map (·.text) ∧
        Sequence done { s with depth := s.depth + 1 } rs t ∧
        Ends rs rest t ((runScript source).run.run s).1 ∧
        ((runScript source).run.run s).2 = { t with depth := s.depth } ∧
        s.linesSince (s.depth + 1) ((runScript source).run.run s).2 = done.map (·.text)) := by
  refine ⟨fun a b => run_runScript_append a b s, fun source => ⟨fun hlimit => ?_, fun hlt => ?_⟩⟩
  · rw [run_runScript, if_pos hlimit]
  · obtain ⟨done, rest, rs, heq, hsequence, hends⟩ := exists_sequence_of_runLines
      (ScriptLine.ofSource source) { s with depth := s.depth + 1 }
    rcases hrun : (runLines runScript (ScriptLine.ofSource source)).run.run
      { s with depth := s.depth + 1 } with ⟨answer, t⟩
    rw [hrun] at hsequence hends
    obtain ⟨hdepth, events, hj, hlines⟩ := hsequence.journal
    have hback : t.depth - 1 = s.depth := Nat.sub_eq_of_eq_add hdepth
    rw [run_runScript_of_lt hlt hrun, hback]
    refine ⟨done, rest, rs, t, heq, ?_, hsequence, hends, rfl, ?_⟩
    · rw [← List.map_append, ← heq, map_text_ofSource]
    · have hsince : s.linesSince (s.depth + 1) { t with depth := s.depth } =
          linesAt (s.depth + 1) events := Session.linesSince_eq hj
      exact hsince.trans hlines

/-- A script of four lines, of which one is a remark, executes the other ones up to the one that
fails; at the limit of depth it is refused. -/
theorem executed_up_to_failure :
    let source := "# numbers\na = int(1)\r\n  @ bogus\nc = int(3)"
    (driverless.depth < scriptDepthLimit ∧
        ∃ (done rest : List ScriptLine) (rs : List Executed) (t : Session),
      done.map (·.text) = ["a = int(1)", "bogus"] ∧ rest.map (·.text) = ["c = int(3)"] ∧
      Sequence done { driverless with depth := 1 } rs t ∧
      ∃ earlier last, rs = earlier ++ [last] ∧ (∀ r ∈ earlier, r.outcome = .good) ∧
        last.outcome = .fail) ∧
    scriptDepthLimit ≤ ({ driverless with depth := 32 } : Session).depth ∧
      (runScript source).run.run { driverless with depth := 32 } =
        (.error { fault := .scriptTooDeep }, { driverless with depth := 32 }) := by
  intro source
  have hlimit : scriptDepthLimit ≤ ({ driverless with depth := 32 } : Session).depth := by decide
  refine ⟨⟨by decide, ?_⟩, hlimit, ((scripts_compose _).2 source).1 hlimit⟩
  obtain ⟨done, rest, rs, t, -, htexts, hsequence, hends, -, hlines⟩ :=
    ((scripts_compose driverless).2 source).2 (by decide)
  have hdone : done.map (·.text) = ["a = int(1)", "bogus"] :=
    hlines.symm.trans (by decide +kernel)
  have hfail : ((runScript source).run.run driverless).1 = .ok .fail := by decide +kernel
  have hall : commandLines source = ["a = int(1)", "bogus"] ++ ["c = int(3)"] := by decide +kernel
  rw [hdone, hall] at htexts
  rw [hfail] at hends
  exact ⟨done, rest, rs, t, hdone, (List.append_cancel_left htexts).symm, hsequence, hends⟩

/-- Not every script comes to its first line: it is not executed where its echo cannot be written,
nor at the limit of depth. -/
theorem unexecuted_first_line :
    let echoing : Session :=
      { driverless with options := { echo := true }, out := { broken := some "sink closed" } }
    let deep : Session := { driverless with depth := 32 }
    commandLines "a = int(1)\n" = ["a = int(1)"] ∧
      ((runScript "a = int(1)\n").run.run echoing).1 = .error { fault := .output "sink closed" } ∧
      echoing.linesSince 1 ((runScript "a = int(1)\n").run.run echoing).2 = [] ∧
      ((runScript "a = int(1)\n").run.run deep).1 = .error { fault := .scriptTooDeep } ∧
      deep.linesSince 33 ((runScript "a = int(1)\n").run.run deep).2 = [] := by
  decide +kernel

end DriverBench
