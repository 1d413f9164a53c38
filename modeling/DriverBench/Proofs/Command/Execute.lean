import DriverBench.Proofs.Command.Steady
/-!
# What a line is, and how it answers

A line is blank, spoilt by its first token, an assignment, or a command if its first token names one
(`Statement.command?`, `Statement.execute_cases`). A command that does not fail answers in one way
only: `quit` that no further line is to be run, `script` what the script answered, and every other
command that all is well.
-/

namespace DriverBench

open Device Simulator

namespace Reading

variable {α : Type} {o : Outcome}

/-- A reading that does not fail answers in one way. -/
def Answers (o : Outcome) (r : Reading Outcome) : Prop :=
  Ensures (fun _ => True) r (fun o' _ => o' = o) (fun _ => True)

theorem answers_bind {r : Reading α} {f : α → Reading Outcome} (h : ∀ a, Answers o (f a)) :
    Answers o (r >>= f) :=
  Ensures.bind Ensures.any h

theorem answers_pure : Answers o (pure o) := Ensures.pure fun _ _ => rfl

theorem answers_throw (f : Failure) : Answers o (throw f) := Ensures.throw fun _ h => h

theorem answers_ite {p : Prop} [Decidable p] {r r' : Reading Outcome} (h : Answers o r)
    (h' : Answers o r') : Answers o (if p then r else r') :=
  Ensures.ite (fun _ => h) fun _ => h'

end Reading

namespace Statement

open Reading

/-! ## Answers -/

theorem answers_assignment : Answers .good assignment := by
  unfold assignment
  refine answers_bind fun _ => answers_bind fun _ => answers_bind fun _ => answers_bind fun _ => ?_
  refine answers_ite (answers_bind fun _ => answers_bind fun _ => answers_bind fun _ => ?_) ?_
  · exact answers_bind fun _ => answers_pure
  · exact answers_bind fun _ => answers_pure

theorem answers_release : Answers .good release := by
  unfold release
  refine answers_bind fun _ => ?_
  extract_lets rest
  have hrest : ∀ u, Answers .good (rest u) := fun _ => by
    refine answers_bind fun _ => answers_bind fun _ => answers_bind fun s => ?_
    split
    · exact Ensures.liftM (Action.Ensures.raise fun _ h => h)
    · exact answers_bind fun _ => answers_bind fun _ => answers_pure
  exact answers_ite (answers_bind fun _ => answers_bind hrest) (hrest ())

theorem answers_list : Answers .good list := by
  unfold list
  refine answers_bind fun _ => answers_bind fun s => answers_ite ?_ ?_
  · exact answers_bind fun _ => answers_pure
  · exact answers_bind fun _ => answers_pure

theorem answers_settings : Answers .good settings := by
  unfold settings changeSetting showSettings
  refine answers_bind fun more => answers_ite ?_ ?_
  · exact answers_bind fun _ => answers_bind fun _ => answers_bind fun _ => answers_bind fun _ =>
      answers_pure
  · exact answers_bind fun _ => answers_bind fun _ => answers_pure

theorem answers_load : Answers .good load := by
  unfold load
  refine answers_bind fun library => answers_bind fun _ => ?_
  split
  · exact answers_throw _
  · exact answers_bind fun _ => answers_bind fun _ => answers_bind fun _ => answers_bind fun _ =>
      answers_pure

theorem answers_select : Answers .good select := by
  unfold select changeSelection showSelection
  refine answers_bind fun more => answers_ite ?_ ?_
  · refine answers_bind fun _ => answers_bind fun _ => answers_bind fun _ => ?_
    refine answers_bind fun _ => ?_
    exact answers_bind fun _ => answers_bind fun _ => answers_bind fun _ => answers_bind fun _ =>
      answers_bind fun _ => answers_pure
  · exact answers_bind fun _ => answers_bind fun _ => answers_bind fun _ => answers_pure

theorem answers_bindArguments : Answers .good bindArguments := by
  unfold bindArguments
  refine answers_bind fun k => answers_bind fun _ => answers_bind fun first => ?_
  refine answers_bind fun values => answers_bind fun _ => answers_ite ?_ ?_
  · exact answers_bind fun _ => answers_bind fun _ => answers_bind fun _ => answers_bind fun _ =>
      answers_pure
  · exact answers_bind fun _ => answers_bind fun _ => answers_pure

theorem answers_save : Answers .good save := by
  unfold save
  refine answers_bind fun _ => answers_bind fun _ => answers_bind fun _ => answers_bind fun _ => ?_
  exact answers_bind fun _ => answers_bind fun _ => answers_bind fun _ => answers_pure

theorem answers_help : Answers .good help := by
  unfold help
  refine answers_bind fun _ => answers_ite (answers_bind fun _ => answers_pure) ?_
  exact answers_bind fun _ => answers_bind fun _ => answers_bind fun _ => answers_pure

/-- **The answer of a command** says which command it was, if it says that no more is to be run. -/
theorem answers_perform (runner : ScriptRunner) {c : Command} (hc : c ≠ .script) :
    Answers (if c = .quit then .quit else .good) (perform runner c) := by
  cases c with
  | load => exact answers_load
  | select => exact answers_select
  | info => exact answers_bind fun _ => answers_bind fun _ => answers_bind fun _ =>
      answers_bind fun _ => answers_pure
  | list => exact answers_list
  | set => exact answers_settings
  | release => exact answers_release
  | save => exact answers_save
  | run => exact answers_bind fun _ => answers_bind fun _ => answers_bind fun _ => answers_pure
  | script => exact absurd rfl hc
  | wait => exact answers_bind fun _ => answers_bind fun _ => answers_bind fun _ => answers_pure
  | flush => exact answers_bind fun _ => answers_bind fun _ => answers_pure
  | bind => exact answers_bindArguments
  | help => exact answers_help
  | quit => exact answers_bind fun _ => answers_pure

/-! ## Lines -/

/-- The command that a line names, if it names one: it is neither blank nor an assignment, and the
first token is the name of a command or abbreviates the name of just one. -/
def command? (c : Cursor) : Option Command :=
  match c.current.kind with
  | .finish | .invalid => none
  | _ =>
    if c.next.kind = .equal then none
    else match Text.choose c.current.text Command.name Command.all with
      | .one command => some command
      | _ => none

theorem run_commandName (c : Cursor) (s : Session) :
    commandName.run c s =
      match Text.choose c.current.text Command.name Command.all with
      | .one command => ((.ok command, c.advance), s)
      | .several => ((.error ((Fault.ambiguousCommand c.current.text
          (Command.candidates c.current.text)).atSpan c.current.span), c.advance), s)
      | .none => ((.error ((Fault.unknownCommand c.current.text).atSpan c.current.span), c.advance),
          s) := by
  have hconsume : consume.run c s = ((.ok c.current, c.advance), s) := rfl
  unfold commandName
  rw [run_bind, hconsume]
  dsimp only
  cases Text.choose c.current.text Command.name Command.all <;> rfl

/-- A line that starts with a valid token is an assignment or a command. -/
theorem run_execute_of_valid (runner : ScriptRunner) {c : Cursor} (hf : c.current.kind ≠ .finish)
    (hi : c.current.kind ≠ .invalid) (s : Session) :
    (execute runner).run c s =
      (if c.next.kind = .equal then assignment else commandName >>= perform runner).run c s := by
  have hcursor : cursor.run c s = ((.ok c, c), s) := rfl
  unfold execute
  rw [run_bind, hcursor]
  dsimp only
  split
  · exact absurd ‹_› hf
  · exact absurd ‹_› hi
  · rfl

/-- A line that names a command is executed by it. -/
theorem run_execute_of_command (runner : ScriptRunner) {c : Cursor} {command : Command}
    (h : command? c = some command) (s : Session) :
    (execute runner).run c s = (perform runner command).run c.advance s := by
  have hf : c.current.kind ≠ .finish := by
    intro hk
    rw [command?, hk] at h
    cases h
  have hi : c.current.kind ≠ .invalid := by
    intro hk
    rw [command?, hk] at h
    cases h
  have hcommand : (if c.next.kind = .equal then none
      else match Text.choose c.current.text Command.name Command.all with
        | .one command => some command
        | _ => none) = some command := by
    unfold command? at h
    split at h
    · cases h
    · cases h
    · exact h
  by_cases heq : c.next.kind = .equal
  · rw [if_pos heq] at hcommand
    cases hcommand
  rw [if_neg heq] at hcommand
  rw [run_execute_of_valid runner hf hi, if_neg heq, run_bind, run_commandName]
  cases hname : Text.choose c.current.text Command.name Command.all with
  | one other =>
    rw [hname] at hcommand
    obtain rfl := Option.some.inj hcommand
    rfl
  | several =>
    rw [hname] at hcommand
    cases hcommand
  | none =>
    rw [hname] at hcommand
    cases hcommand

/-- **A line** is blank, or fails before anything was done, or is an assignment or a command. -/
theorem execute_cases (runner : ScriptRunner) (c : Cursor) :
    (∀ s, (execute runner).run c s = ((.ok .good, c), s)) ∨
    (∃ f c', ∀ s, (execute runner).run c s = ((.error f, c'), s)) ∨
    (∀ s, (execute runner).run c s = assignment.run c s) ∨
    ∃ command, command? c = some command ∧
      ∀ s, (execute runner).run c s = (perform runner command).run c.advance s := by
  have hcursor : ∀ s, cursor.run c s = ((.ok c, c), s) := fun _ => rfl
  by_cases hf : c.current.kind = .finish
  · refine .inl fun s => ?_
    unfold execute
    rw [run_bind, hcursor]
    dsimp only
    rw [hf]
    rfl
  by_cases hi : c.current.kind = .invalid
  · refine .inr (.inl ⟨c.current.invalidFailure, c, fun s => ?_⟩)
    unfold execute
    rw [run_bind, hcursor]
    dsimp only
    rw [hi]
    rfl
  by_cases heq : c.next.kind = .equal
  · refine .inr (.inr (.inl fun s => ?_))
    rw [run_execute_of_valid runner hf hi, if_pos heq]
  have hrun : ∀ s, (execute runner).run c s = (commandName >>= perform runner).run c s := by
    intro s
    rw [run_execute_of_valid runner hf hi, if_neg heq]
  -- The name decides, whatever the session is.
  cases hname : Text.choose c.current.text Command.name Command.all with
  | one command =>
    refine .inr (.inr (.inr ⟨command, ?_, fun s => ?_⟩))
    · unfold command?
      rw [if_neg heq, hname]
      split <;> first | contradiction | rfl
    · rw [hrun, run_bind, run_commandName, hname]
  | several =>
    refine .inr (.inl ⟨(Fault.ambiguousCommand c.current.text
      (Command.candidates c.current.text)).atSpan c.current.span, c.advance, fun s => ?_⟩)
    rw [hrun, run_bind, run_commandName, hname]
  | none =>
    refine .inr (.inl ⟨(Fault.unknownCommand c.current.text).atSpan c.current.span, c.advance,
      fun s => ?_⟩)
    rw [hrun, run_bind, run_commandName, hname]

end Statement

end DriverBench
