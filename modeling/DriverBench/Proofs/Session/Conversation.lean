import DriverBench.Console
import DriverBench.Proofs.Script.Compose
/-!
# Conversations

The interactive loop runs the lines that are typed, one after the other, until reading ends or a
line quits. What a line comes to otherwise is no matter: behind a failure the next line is asked for
as behind anything else. An interrupt is no line, and leaves nothing but another prompt.

Which lines are typed is read off the answers alone (`typed`), and so is what the loop comes to when
no line quits (`ending`). The lines that are run are a beginning of these (`Follows`), each of them
in the session that the one before it left, but for prompts and for the entry of the history that is
made of it (`Session.TakesIn`).
-/

namespace DriverBench

/-! ## Answers -/

namespace Answer

/-- Behind this answer nothing more is read. -/
def isLast : Answer → Bool
  | finished | failed => true
  | line _ | interrupted => false

/-- The line that was typed. -/
def line? : Answer → Option String
  | line text => some text
  | interrupted | finished | failed => none

end Answer

/-- The lines that are typed before reading ends. -/
def typed (answers : List Answer) : List String :=
  (answers.takeWhile fun a => !a.isLast).filterMap Answer.line?

/-- What it comes to that reading ends: where it ends with a failure, that is one of the loop. -/
def ending (answers : List Answer) : Outcome :=
  if answers.find? Answer.isLast = some .failed then .fail else .good

variable {answers : List Answer} {rs : List Executed} {o : Outcome} {p : Prompting}
  {s s' t : Session}

@[simp] theorem typed_line (text : String) (answers : List Answer) :
    typed (.line text :: answers) = text :: typed answers := rfl

theorem ending_ne_quit (answers : List Answer) : ending answers ≠ .quit := by
  unfold ending
  split <;> exact nofun

/-- **What comes of answers**: the lines that were run are those that are typed, up to the first one
that quits; the outcome is that a line quit, or else what it comes to that reading ends. -/
structure Follows (answers : List Answer) (rs : List Executed) (o : Outcome) : Prop where
  isPrefix : rs.map (·.line) <+: typed answers
  goes_on : ∀ r ∈ rs.dropLast, r.outcome ≠ .quit
  quit_iff : o = .quit ↔ ∃ r ∈ rs, r.outcome = .quit
  all_typed : (∀ r ∈ rs, r.outcome ≠ .quit) → rs.map (·.line) = typed answers
  ends : (∀ r ∈ rs, r.outcome ≠ .quit) → o = ending answers

namespace Follows

/-- Reading ends. -/
theorem nil (htyped : typed answers = []) (ho : ending answers = o) : Follows answers [] o where
  isPrefix := List.nil_prefix
  goes_on _ hu := absurd hu List.not_mem_nil
  quit_iff := by
    rw [← ho]
    exact ⟨fun h => absurd h (ending_ne_quit answers), fun ⟨_, hr, _⟩ => absurd hr List.not_mem_nil⟩
  all_typed _ := htyped.symm
  ends _ := ho.symm

/-- A line quits. -/
theorem quits {r : Executed} (hr : r.outcome = .quit) (answers : List Answer) :
    Follows (.line r.line :: answers) [r] .quit where
  isPrefix := List.prefix_append [r.line] (typed answers)
  goes_on _ hu := absurd hu List.not_mem_nil
  quit_iff := ⟨fun _ => ⟨r, List.mem_singleton_self r, hr⟩, fun _ => rfl⟩
  all_typed h := absurd hr (h r (List.mem_singleton_self r))
  ends h := absurd hr (h r (List.mem_singleton_self r))

/-- A line does not quit. -/
theorem cons {r : Executed} (h : Follows answers rs o) (hr : r.outcome ≠ .quit) :
    Follows (.line r.line :: answers) (r :: rs) o where
  isPrefix := by
    rw [List.map_cons, typed_line]
    exact List.cons_prefix_cons.2 ⟨rfl, h.isPrefix⟩
  goes_on u hu := by
    cases rs with
    | nil => exact absurd hu List.not_mem_nil
    | cons r' rs =>
      rcases List.mem_cons.1 hu with rfl | hu
      · exact hr
      · exact h.goes_on u hu
  quit_iff := by
    rw [h.quit_iff]
    simp only [List.exists_mem_cons_iff, hr, false_or]
  all_typed hall := by
    rw [List.map_cons, typed_line, h.all_typed (List.forall_mem_cons.1 hall).2]
  ends hall := h.ends (List.forall_mem_cons.1 hall).2

end Follows

/-! ## The lines of a conversation -/

namespace Session

/-- The session behind some prompts. -/
def asked (p : Prompting) : Nat → Session → Session
  | 0, s => s
  | n + 1, s => asked p n (s.ask p)

/-- **Lines are taken in** one after the other: each of them is asked for, perhaps more than once,
is added to the history, and is run. -/
inductive TakesIn (p : Prompting) : Session → List Executed → Session → Prop
  | done (s : Session) (prompts : Nat) : TakesIn p s [] (asked p prompts s)
  | line {s s' : Session} {rs : List Executed} (line : String) (prompts : Nat) :
      TakesIn p (((asked p (prompts + 1) s).note (.remembered line)).runLine line).2 rs s' →
      TakesIn p s (⟨line, (asked p (prompts + 1) s).note (.remembered line)⟩ :: rs) s'

theorem TakesIn.of_ask (h : (s.ask p).TakesIn p rs s') : s.TakesIn p rs s' := by
  generalize ht : s.ask p = t at h
  cases h with
  | done t prompts =>
    rw [← ht]
    exact .done s (prompts + 1)
  | line line prompts hlater =>
    rw [← ht] at hlater ⊢
    exact .line line (prompts + 1) hlater

/-- A line that is taken in at the next prompt. -/
theorem TakesIn.cons {text : String}
    (h : (((s.ask p).note (.remembered text)).runLine text).2.TakesIn p rs s') :
    s.TakesIn p (⟨text, (s.ask p).note (.remembered text)⟩ :: rs) s' :=
  .line text 0 h

theorem converse_line (p : Prompting) (text : String) (answers : List Answer) (s : Session) :
    converse p (.line text :: answers) s =
      if (((s.ask p).note (.remembered text)).runLine text).1 = .quit then
        (.quit, (((s.ask p).note (.remembered text)).runLine text).2)
      else converse p answers (((s.ask p).note (.remembered text)).runLine text).2 := by
  rw [converse, accept]
  dsimp only [enterLine]
  rcases ((s.ask p).note (.remembered text)).runLine text with ⟨_ | _ | _, t⟩ <;> rfl

/-- **The loop** takes in the lines that are typed until one quits. -/
theorem exists_takesIn_of_converse (p : Prompting) (answers : List Answer) (s : Session) :
    ∃ rs, s.TakesIn p rs (converse p answers s).2 ∧
      Follows answers rs (converse p answers s).1 := by
  induction answers generalizing s with
  | nil => exact ⟨[], .done s 1, .nil rfl rfl⟩
  | cons answer rest ih =>
    cases answer with
    | finished => exact ⟨[], .done s 1, .nil rfl rfl⟩
    | failed => exact ⟨[], .done s 1, .nil rfl rfl⟩
    | interrupted =>
      obtain ⟨rs, htaken, hfollows⟩ := ih (s.ask p)
      exact ⟨rs, htaken.of_ask, { hfollows with }⟩
    | line text =>
      let r : Executed := ⟨text, (s.ask p).note (.remembered text)⟩
      have hstep : converse p (.line text :: rest) s =
          if r.outcome = .quit then (.quit, r.after) else converse p rest r.after :=
        converse_line p text rest s
      rw [hstep]
      by_cases hquit : r.outcome = .quit
      · rw [if_pos hquit]
        exact ⟨[r], .cons (.done r.after 0), .quits hquit rest⟩
      · rw [if_neg hquit]
        obtain ⟨rs, htaken, hfollows⟩ := ih r.after
        exact ⟨r :: rs, .cons htaken, hfollows.cons hquit⟩

end Session

/-! ## The journal of a conversation -/

/-- What is noted down when lines are run. -/
def Event.isWork : Event → Bool
  | .ran _ _ | .reported _ _ => true
  | .prompted | .remembered _ | .saved => false

/-- The lines that were added to the history, in their order. -/
def rememberedLines (events : List Event) : List String :=
  events.reverse.filterMap fun
    | .remembered line => some line
    | _ => none

theorem rememberedLines_append (later earlier : List Event) :
    rememberedLines (later ++ earlier) = rememberedLines earlier ++ rememberedLines later := by
  rw [rememberedLines, List.reverse_append, List.filterMap_append]
  rfl

theorem rememberedLines_eq_nil {events : List Event} (h : ∀ line, .remembered line ∉ events) :
    rememberedLines events = [] := by
  refine List.filterMap_eq_nil_iff.2 fun e he => ?_
  cases e with
  | remembered line => exact absurd (List.mem_reverse.1 he) (h line)
  | _ => rfl

namespace Session

/-- What was noted down since then was noted down of lines that were run. -/
def Works (s s' : Session) : Prop :=
  ∃ events, s'.journal = events ++ s.journal ∧ ∀ e ∈ events, e.isWork = true

theorem Steady.works (h : s.Steady s') : s.Works s' :=
  ⟨[], h.journal, nofun⟩

instance : TalkFrame Works where
  refl s := Steady.works (Frame.refl s)
  trans := by
    rintro a b c ⟨earlier, he, hwork⟩ ⟨later, hl, hwork'⟩
    refine ⟨later ++ earlier, by rw [hl, he, List.append_assoc], fun e hm => ?_⟩
    rcases List.mem_append.1 hm with hm | hm
    · exact hwork' e hm
    · exact hwork e hm
  of_talks s s' h := (TalkFrame.of_talks (R := Steady) s s' h).works

theorem works_note (s : Session) {e : Event} (h : e.isWork = true) : s.Works (s.note e) :=
  ⟨[e], rfl, List.forall_mem_singleton.2 h⟩

theorem works_report (s : Session) (line : String) (f : Failure) : s.Works (s.report line f) :=
  ⟨[.reported line f], rfl, List.forall_mem_singleton.2 rfl⟩

/-- Lines and scripts note down nothing but lines that were run and failures of these. -/
theorem scripted_works : Scripted Works where
  line _ hr _ s :=
    Frame.trans (works_note s rfl) (within_behind_note (fun t => (steady_dropTemporaries t).works)
      works_report (within_execute_of_steady (fun _ _ h => h.works) hr _ _))
  depth _ _ := ⟨[], rfl, nofun⟩
  report := works_report

theorem depth_asked (p : Prompting) (n : Nat) (s : Session) : (asked p n s).depth = s.depth := by
  induction n generalizing s with
  | zero => rfl
  | succ n ih =>
    rw [asked, ih]
    cases p <;> rfl

theorem journal_asked (p : Prompting) (n : Nat) (s : Session) :
    (asked p n s).journal = List.replicate n .prompted ++ s.journal := by
  induction n generalizing s with
  | zero => rfl
  | succ n ih =>
    have hask : (s.ask p).journal = .prompted :: s.journal := by cases p <;> rfl
    rw [asked, ih, hask, List.replicate_succ', List.append_assoc]
    rfl

/-- **A line in the journal**: what is noted down when it is run is no matter of the history, and at
its depth it is the only line. -/
theorem exists_work_runLine (s : Session) (line : String) :
    (s.runLine line).2.depth = s.depth ∧ ∃ events,
      (s.runLine line).2.journal = events ++ s.journal ∧ (∀ e ∈ events, e.isWork = true) ∧
      linesAt s.depth events = [line] := by
  obtain ⟨hdepth, events, hj, hlines⟩ := s.exists_journal_runLine line
  obtain ⟨events', hj', hwork⟩ := scripted_works.runLine s line
  obtain rfl := List.append_cancel_right (hj.symm.trans hj')
  exact ⟨hdepth, events, hj, hwork, hlines⟩

/-- **What is noted down of a conversation**: the lines that are run at its depth and those that are
added to the history are the ones that are taken in, and the history is not saved. -/
theorem TakesIn.journal (h : s.TakesIn p rs s') :
    s'.depth = s.depth ∧ ∃ events, s'.journal = events ++ s.journal ∧ .saved ∉ events ∧
      linesAt s.depth events = rs.map (·.line) ∧ rememberedLines events = rs.map (·.line) := by
  have hprompts : ∀ n depth, Event.saved ∉ List.replicate n Event.prompted ∧
      linesAt depth (List.replicate n .prompted) = [] ∧
      rememberedLines (List.replicate n .prompted) = [] := by
    intro n depth
    refine ⟨fun hm => ?_, linesAt_eq_nil fun _ _ hm => ?_,
      rememberedLines_eq_nil fun _ hm => ?_⟩ <;> cases List.eq_of_mem_replicate hm
  induction h with
  | done s prompts =>
    exact ⟨depth_asked p prompts s, _, journal_asked p prompts s, hprompts prompts s.depth⟩
  | @line s s' rs line prompts _ ih =>
    obtain ⟨hdepth, events, hj, hwork, hline⟩ :=
      exists_work_runLine ((asked p (prompts + 1) s).note (.remembered line)) line
    obtain ⟨hdepth', events', hj', hsaved', hlines', hremembered'⟩ := ih
    obtain ⟨hsaved, hlines, hremembered⟩ := hprompts (prompts + 1) s.depth
    have hsame : ((asked p (prompts + 1) s).note (.remembered line)).depth = s.depth :=
      depth_asked p (prompts + 1) s
    rw [hsame] at hdepth hline
    rw [hdepth] at hlines'
    have hnone : .saved ∉ events ∧ rememberedLines events = [] :=
      ⟨fun hm => absurd (hwork _ hm) nofun,
        rememberedLines_eq_nil fun _ hm => absurd (hwork _ hm) nofun⟩
    refine ⟨hdepth'.trans hdepth,
      events' ++ (events ++ ([.remembered line] ++ List.replicate (prompts + 1) .prompted)),
      ?_, ?_, ?_, ?_⟩
    · rw [hj', hj, note, journal_asked]
      simp only [List.append_assoc, List.cons_append, List.nil_append]
    · simp only [List.mem_append, List.mem_singleton, hsaved', hsaved, hnone.1, reduceCtorEq,
        or_false, not_false_eq_true]
    · rw [linesAt_append, linesAt_append, linesAt_append, hlines, hline, hlines']
      rfl
    · rw [rememberedLines_append, rememberedLines_append, rememberedLines_append, hremembered,
        hnone.2, hremembered']
      rfl

/-- **The interactive loop runs the right lines.** They are those that are typed before reading
ends, in their order, up to and with the first one that quits; that a line fails is no reason to
stop. Each is added to the history just before it is run, and starts from what the line before it
left; all that interrupts add to that is prompts. Nothing else is added to the history, and nothing
else is run at the depth of the loop. The history is saved once, behind everything else. The loop
comes to an end by `quit` just if a line quit, and fails if it ended because reading failed. -/
theorem interact_runs_typed (s : Session) (p : Prompting) (answers : List Answer) :
    ∃ rs s', s.TakesIn p rs s' ∧ (s.interact p answers).2 = s'.note .saved ∧
      Follows answers rs (s.interact p answers).1 ∧
      ∃ events, (s.interact p answers).2.journal = .saved :: (events ++ s.journal) ∧
        .saved ∉ events ∧ linesAt s.depth events = rs.map (·.line) ∧
        rememberedLines events = rs.map (·.line) := by
  obtain ⟨rs, htaken, hfollows⟩ := exists_takesIn_of_converse p answers s
  obtain ⟨-, events, hjournal, hentries⟩ := htaken.journal
  exact ⟨rs, _, htaken, rfl, hfollows, events, congrArg (Event.saved :: ·) hjournal, hentries⟩

/-- A line that fails and an interrupt do not stop the loop, and a line that quits does. -/
example :
    let run := driverless.interact .silent
      [.line "bogus", .interrupted, .line "quit", .line "help", .failed]
    run.1 = .quit ∧ rememberedLines run.2.journal = ["bogus", "quit"] := by
  decide +kernel

end Session

end DriverBench
