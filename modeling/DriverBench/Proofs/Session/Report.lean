import DriverBench.Proofs.Command.Place
import DriverBench.Proofs.Session.Reached
/-!
# What is reported of a failed line

The failure of a line points into that line, whatever the line is and whatever the session. So where
a failure is pointed at, the carets stand under the characters that are meant: as far to the right
as there are characters in front of them, and the prompt in front of those where there is one.
-/

namespace DriverBench

/-! ## Scripts -/

namespace Action

variable {line : String} {α : Type}

theorem points_deeper {a : Action α} (h : Points line a) : Points line (deeper a) := by
  intro s
  have h₁ := h { s with depth := s.depth + 1 }
  rw [run_deeper]
  rcases hr : a.run.run { s with depth := s.depth + 1 } with ⟨f | x, s'⟩
  · rw [hr] at h₁
    exact h₁
  · trivial

theorem points_echo (l : ScriptLine) : Points line (echo l) := by
  unfold echo
  exact points_bind points_get fun s => points_ite (points_say _) (points_pure _)

theorem points_runLines (runner : ScriptRunner) (lines : List ScriptLine) :
    Points line (runLines runner lines) := by
  induction lines with
  | nil => exact points_pure _
  | cons l rest ih =>
    unfold runLines
    refine points_bind (points_echo l) fun _ => points_bind (points_modifyGet _) fun o => ?_
    split
    · exact ih
    · exact points_pure _

theorem points_runScriptWithin (levels : Nat) (source : String) :
    Points line (runScriptWithin levels source) := by
  cases levels with
  | zero => exact points_raise (by simp [Fault.kind])
  | succ levels => exact points_deeper (points_runLines _ _)

/-- **What makes a script fail as a whole names no place**, so it points into any line: the lines of
the script report their own failures. -/
theorem points_runScript (source : String) : Points line (runScript source) := by
  unfold runScript
  exact points_bind points_get fun s => points_runScriptWithin _ source

end Action

/-! ## Carets -/

/-- The carets under a range of a text, by the characters in front of the range and in it. -/
theorem caretLine_eq {line : String} {before marked after : List Char}
    (h : before ++ (marked ++ after) = line.toList) (hlimit : line.utf8ByteSize < caretLimit) :
    caretLine line ⟨Text.byteLength before, Text.byteLength before + Text.byteLength marked⟩ =
      some (String.ofList (caretPad before ++ List.replicate (max marked.length 1) '^')) := by
  have hbytes : Text.byteLength line.toList = line.utf8ByteSize := Text.byteLength_toList line
  have hstop : Text.byteLength before + Text.byteLength marked ≤ Text.byteLength line.toList := by
    rw [← h, Text.byteLength_append, Text.byteLength_append]
    omega
  unfold caretLine
  dsimp only
  rw [if_neg (by omega), ← h, Text.splitAtByte?_append, Option.bind_eq_bind, Option.bind_some,
    Nat.add_sub_cancel_left, Text.splitAtByte?_append]
  rfl

/-- Tabs and spaces stand in front of the carets. -/
theorem blank_of_mem_caretPad {before : List Char} {c : Char} (h : c ∈ caretPad before) :
    c = ' ' ∨ c = '\t' := by
  obtain ⟨b, -, rfl⟩ := List.mem_map.1 h
  split <;> simp

namespace Session

/-- A row of carets as a session prints it under a range of a line: one character of padding for
each character in front of the range, and for each of the prompt if the line was typed behind one;
one caret for each character of the range, and one at least. -/
def Marks (s : Session) (line : String) (sp : Span) (row : String) : Prop :=
  ∃ before marked after pad : List Char,
    before ++ (marked ++ after) = line.toList ∧
    Text.byteLength before = sp.start ∧ Text.byteLength (before ++ marked) = sp.stop ∧
    pad.length = before.length + (if s.depth = 0 then prompt.length else 0) ∧
    (∀ c ∈ pad, c = ' ' ∨ c = '\t') ∧
    row = String.ofList (pad ++ List.replicate (max 1 marked.length) '^')

/-- The line again, where it has not been on the screen: in a script that is not echoed. -/
def shownAgain (s : Session) (line : String) : String :=
  if s.depth ≠ 0 ∧ s.options.echo = false then line ++ "\n" else ""

/-- What is printed of carets, by what they mark. -/
theorem exists_marks {line : String} {sp : Span} (hsp : sp.In line)
    (hlimit : line.utf8ByteSize < caretLimit) (s : Session) :
    ∃ caret row, caretLine line sp = some caret ∧ s.Marks line sp row ∧
      s.caretText line caret = s.shownAgain line ++ row ++ "\n" := by
  obtain ⟨before, marked, after, hline, hstart, hmarked⟩ := hsp.start.split hsp.stop hsp.ordered
  have hstop : sp.stop = Text.byteLength before + Text.byteLength marked := by
    have := hsp.ordered
    omega
  have hcaret : caretLine line sp =
      some (String.ofList (caretPad before ++ List.replicate (max marked.length 1) '^')) := by
    rw [← caretLine_eq hline hlimit, ← hstop, hstart]
  have hpad : (caretPad before).length = before.length := List.length_map ..
  -- Behind the prompt the pad is longer by as much as the prompt is wide.
  let pad := if s.depth = 0 then List.replicate prompt.length ' ' ++ caretPad before
    else caretPad before
  refine ⟨_, String.ofList (pad ++ List.replicate (max 1 marked.length) '^'), hcaret,
    ⟨before, marked, after, pad, hline, hstart, ?_, ?_, ?_, rfl⟩, ?_⟩
  · rw [Text.byteLength_append, hstop]
  · by_cases hd : s.depth = 0
    · simp only [pad, if_pos hd, List.length_append, List.length_replicate, hpad]
      omega
    · simp only [pad, if_neg hd, hpad]
      omega
  · intro c hc
    by_cases hd : s.depth = 0
    · simp only [pad, if_pos hd, List.mem_append] at hc
      rcases hc with hc | hc
      · exact .inl (List.eq_of_mem_replicate hc)
      · exact blank_of_mem_caretPad hc
    · simp only [pad, if_neg hd] at hc
      exact blank_of_mem_caretPad hc
  · unfold caretText shownAgain
    by_cases hd : s.depth = 0
    · simp [pad, hd, Nat.max_comm, String.append_assoc]
    · cases he : s.options.echo <;> simp [pad, hd, Nat.max_comm]

variable {s s' : Session} {line : String} {f : Failure}

/-- A failure is pointed at if the option is on, it names a place and the line is short enough. -/
theorem reportText_of_points (hf : f.Points line) (s : Session) :
    (∀ sp, s.options.caret = true → f.span = some sp → line.utf8ByteSize < caretLimit →
      ∃ row, s.Marks line sp row ∧
        s.reportText line f = s.shownAgain line ++ row ++ "\n" ++ f.fault.message ++ "\n") ∧
    (¬ (s.options.caret = true ∧ f.span.isSome ∧ line.utf8ByteSize < caretLimit) →
      s.reportText line f = f.fault.message ++ "\n") := by
  constructor
  · intro sp hcaret hsp hlimit
    obtain ⟨caret, row, hline, hmarks, htext⟩ := exists_marks (hf.inside sp hsp) hlimit s
    refine ⟨row, hmarks, ?_⟩
    unfold reportText
    simp only [hcaret, if_true, hsp, Option.bind_some, hline, htext]
  · intro hnot
    have hnone : (if s.options.caret then f.span.bind (caretLine line) else none) = none := by
      by_cases hcaret : s.options.caret = true
      · rw [if_pos hcaret]
        rcases hsp : f.span with _ | sp
        · rfl
        · have hlong : caretLimit ≤ Text.byteLength line.toList := by
            rw [Text.byteLength_toList]
            by_contra hlt
            exact hnot ⟨hcaret, by rw [hsp]; rfl, by omega⟩
          rw [Option.bind_some, caretLine]
          exact if_pos (.inl hlong)
      · rw [if_neg hcaret]
    unfold reportText
    rw [hnone]
    dsimp only
    rw [String.empty_append]

theorem points_of_execute (h : s.execute line = (.error f, s')) : f.Points line := by
  have hpoints := Statement.points_execute Action.points_runScript (Cursor.ofLine line) s
    (Cursor.on_ofLine line)
  unfold execute executeWith at h
  rcases hr : (Statement.execute runScript).run (Cursor.ofLine line) s with ⟨⟨g | o, c⟩, s₁⟩
  · rw [hr] at h hpoints
    obtain rfl := Except.error.inj (Prod.mk.inj h).1
    exact hpoints
  · rw [hr] at h
    cases (Prod.mk.inj h).1

/-- **The failure of a line points into that line**, and its report says so. The place is a range of
the line between characters of it; a line that cannot be divided into tokens always has one. A
report has a row of carets, and then just under the range, if and only if carets are wanted, the
failure names a place and the line is short. -/
theorem report_of_execute (h : s.execute line = (.error f, s')) :
    (f.fault.kind = .lex → f.span.isSome) ∧
    (∀ sp, f.span = some sp → sp.start ≤ sp.stop ∧ sp.stop ≤ line.utf8ByteSize ∧
      String.Pos.Raw.IsValid line ⟨sp.start⟩ ∧ String.Pos.Raw.IsValid line ⟨sp.stop⟩) ∧
    ∀ t : Session,
      (∀ sp, t.options.caret = true → f.span = some sp → line.utf8ByteSize < caretLimit →
        ∃ row, t.Marks line sp row ∧ (t.report line f).err =
          t.err.tryWrite (t.shownAgain line ++ row ++ "\n" ++ f.fault.message ++ "\n")) ∧
      (¬ (t.options.caret = true ∧ f.span.isSome ∧ line.utf8ByteSize < caretLimit) →
        (t.report line f).err = t.err.tryWrite (f.fault.message ++ "\n")) := by
  have hf := points_of_execute h
  refine ⟨hf.located, fun sp hsp => ?_, fun t => ⟨fun sp hcaret hsp hlimit => ?_, fun hnot => ?_⟩⟩
  · have hin := hf.inside sp hsp
    refine ⟨hin.ordered, ?_, hin.start.isValid, hin.stop.isValid⟩
    rw [← Text.byteLength_toList]
    exact hin.stop.le
  · obtain ⟨row, hmarks, htext⟩ := (reportText_of_points hf t).1 sp hcaret hsp hlimit
    exact ⟨row, hmarks, congrArg t.err.tryWrite htext⟩
  · exact congrArg t.err.tryWrite ((reportText_of_points hf t).2 hnot)

/-- A failure behind characters of several bytes: the range is counted in bytes, the carets stand
behind the characters. -/
theorem report_of_missing_paren :
    ∃ f s', (after []).execute "p = program(\"ねこ\" 絵)" = (.error f, s') ∧
      f.span = some ⟨21, 24⟩ ∧ String.Pos.Raw.IsValid "p = program(\"ねこ\" 絵)" ⟨21⟩ ∧
      ∃ row, (after []).Marks "p = program(\"ねこ\" 絵)" ⟨21, 24⟩ row := by
  have hrun : ((after []).execute "p = program(\"ねこ\" 絵)").1.mapError Failure.span =
      .error (some ⟨21, 24⟩) := by decide +kernel
  rcases hx : (after []).execute "p = program(\"ねこ\" 絵)" with ⟨f | o, s'⟩
  · rw [hx] at hrun
    have hrun : f.span = some ⟨21, 24⟩ := Except.error.inj hrun
    obtain ⟨-, hplace, hreport⟩ := report_of_execute hx
    obtain ⟨row, hmarks, -⟩ := (hreport (after [])).1 _ (by decide +kernel) hrun (by decide)
    exact ⟨f, s', rfl, hrun, (hplace _ hrun).2.2.1, row, hmarks⟩
  · rw [hx] at hrun
    cases hrun

end Session

end DriverBench
