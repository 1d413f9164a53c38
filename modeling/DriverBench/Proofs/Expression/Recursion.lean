import DriverBench.Expression.Evaluate
import DriverBench.Proofs.Reading.Gives
/-!
# Evaluation as a recursion along the line

Evaluation is defined over the tokens that are ahead when it starts, so that it can be seen to end.
Wherever it calls itself the cursor stands before just those tokens, so on the cursor it is a plain
recursion: one equation for each way in which an expression can begin. What is proved about
evaluation by induction on the tokens ahead is proved from these equations.
-/

namespace DriverBench

open Device Number Simulator

namespace Reading

variable {s s' : Session} {line : String} {t : Token} {rest : List Token} {c : Cursor}

/-- In parentheses stands an expression. -/
theorem run_evaluate_paren (ht : t.kind = .openParen) :
    evaluate.run ⟨line, t :: rest⟩ s = (evaluate >>= closed t).run ⟨line, rest⟩ s := by
  change (evaluateFrom (t :: rest)).run ⟨line, t :: rest⟩ s = _
  rw [evaluateFrom.eq_def]
  dsimp only
  rw [ht]
  rfl

theorem run_evaluate_bound {e : Entity} (ht : t.kind = .word) (he : s.env.lookup t.text = some e) :
    evaluate.run ⟨line, t :: rest⟩ s = ((.ok e, ⟨line, rest⟩), s) := by
  change (evaluateFrom (t :: rest)).run ⟨line, t :: rest⟩ s = _
  rw [evaluateFrom.eq_def]
  dsimp only
  rw [ht]
  dsimp only
  rw [run_bind, gives_advance]
  dsimp only
  rw [run_bind, gives_session]
  dsimp only
  rw [he]
  rfl

theorem run_evaluate_undefined (ht : t.kind = .word) (he : s.env.lookup t.text = none)
    (hword : Constructor.ofKeyword? t.text = none) :
    evaluate.run ⟨line, t :: rest⟩ s =
      ((.error ((Fault.undefinedName t.text).atSpan t.span), ⟨line, rest⟩), s) := by
  change (evaluateFrom (t :: rest)).run ⟨line, t :: rest⟩ s = _
  rw [evaluateFrom.eq_def]
  dsimp only
  rw [ht]
  dsimp only
  rw [run_bind, gives_advance]
  dsimp only
  rw [run_bind, gives_session]
  dsimp only
  rw [he, hword]
  rfl

/-- A constructor looks at its operand only behind the parenthesis, in the session that it found.
-/
theorem run_construct_congr (k : Constructor) (word : Token) {operand : Reading Entity}
    (operand' : Reading Entity)
    (h : ∀ x arguments, rest = x :: arguments →
      operand.run ⟨line, arguments⟩ s = operand'.run ⟨line, arguments⟩ s) :
    (construct k word operand).run ⟨line, rest⟩ s =
      (construct k word operand').run ⟨line, rest⟩ s := by
  cases k with
  | file => rfl
  | array type => rfl
  | derived d =>
    have hopened : ∀ keyword, (openArguments keyword >>= fun _ => derivedObject d operand).run
        ⟨line, rest⟩ s = (openArguments keyword >>= fun _ => derivedObject d operand').run
          ⟨line, rest⟩ s := by
      intro keyword
      rw [run_bind, run_bind, run_openArguments]
      by_cases hopen : (Cursor.current ⟨line, rest⟩).kind = .openParen
      · obtain ⟨x, arguments, heq, -⟩ := exists_cons_of_kind (by decide) hopen
        obtain rfl : rest = x :: arguments := heq
        rw [if_pos hopen]
        dsimp only
        have hcurrent : current.run ⟨line, arguments⟩ s =
            ((.ok (Cursor.current ⟨line, arguments⟩), ⟨line, arguments⟩), s) := rfl
        rw [Cursor.advance_cons, derivedObject, derivedObject, run_bind, run_bind, hcurrent]
        dsimp only
        split
        · rfl
        · rw [run_bind, run_bind, h x arguments rfl]
      · rw [if_neg hopen]
    unfold construct
    dsimp only
    by_cases hneeds : d.needsDriver = true
    · rw [if_pos hneeds, if_pos hneeds, run_bind, run_bind, run_requireDriver]
      by_cases hnone : s.driver?.isNone = true
      · rw [if_pos hnone]
      · rw [if_neg hnone]
        exact hopened _
    · rw [if_neg hneeds, if_neg hneeds]
      exact hopened _

/-- A word that is not bound is the word of a constructor, and what that makes is entered. -/
theorem run_evaluate_constructor {k : Constructor} (ht : t.kind = .word)
    (he : s.env.lookup t.text = none) (hword : Constructor.ofKeyword? t.text = some k) :
    evaluate.run ⟨line, t :: rest⟩ s =
      (construct k t evaluate >>= fun o => liftM (Action.enter o)).run ⟨line, rest⟩ s := by
  change (evaluateFrom (t :: rest)).run ⟨line, t :: rest⟩ s = _
  rw [evaluateFrom.eq_def]
  dsimp only
  rw [ht]
  dsimp only
  rw [run_bind, gives_advance]
  dsimp only
  rw [run_bind, gives_session]
  dsimp only
  rw [he, hword]
  cases rest with
  | nil =>
    rw [run_bind, run_bind, run_construct_congr k t evaluate]
    intro x arguments hcons
    cases hcons
  | cons x arguments =>
    rw [run_bind, run_bind, run_construct_congr k t evaluate]
    intro x' arguments' hcons
    cases hcons
    rfl

/-- What a constructor makes is what the expression denotes. -/
theorem gives_evaluate_of_construct {k : Constructor} {o : Object} (ht : t.kind = .word)
    (he : s.env.lookup t.text = none) (hword : Constructor.ofKeyword? t.text = some k)
    (h : Gives (construct k t evaluate) ⟨line, rest⟩ s o c s') :
    Gives evaluate ⟨line, t :: rest⟩ s ⟨s'.entities, o⟩ c
      { s' with entities := s'.entities + 1 } := by
  unfold Gives
  rw [run_evaluate_constructor ht he hword, h.bind_run]
  rfl

theorem run_evaluate_of_error {k : Constructor} {f : Failure} (ht : t.kind = .word)
    (he : s.env.lookup t.text = none) (hword : Constructor.ofKeyword? t.text = some k)
    (h : (construct k t evaluate).run ⟨line, rest⟩ s = ((.error f, c), s')) :
    evaluate.run ⟨line, t :: rest⟩ s = ((.error f, c), s') := by
  rw [run_evaluate_constructor ht he hword, run_bind, h]

theorem fails_evaluate_of_construct {k : Constructor} (ht : t.kind = .word)
    (he : s.env.lookup t.text = none) (hword : Constructor.ofKeyword? t.text = some k)
    (h : Fails (construct k t evaluate) ⟨line, rest⟩ s) : Fails evaluate ⟨line, t :: rest⟩ s := by
  obtain ⟨f, c, s', h⟩ := h
  exact ⟨f, c, s', run_evaluate_of_error ht he hword h⟩

/-- An expression begins with a word or a parenthesis. -/
theorem run_evaluate_other (hparen : t.kind ≠ .openParen) (hword : t.kind ≠ .word) :
    evaluate.run ⟨line, t :: rest⟩ s =
      ((.error (if t.kind = .invalid then t.invalidFailure
        else Fault.nameOrConstructorRequired.atSpan t.span), ⟨line, t :: rest⟩), s) := by
  change (evaluateFrom (t :: rest)).run ⟨line, t :: rest⟩ s = _
  rw [evaluateFrom.eq_def]
  dsimp only
  rcases hkind : t.kind
  case word => exact absurd hkind hword
  case openParen => exact absurd hkind hparen
  all_goals rfl

theorem run_evaluate_nil : evaluate.run ⟨line, []⟩ s =
    ((.error (Fault.expressionMissing.atSpan (Cursor.finish ⟨line, []⟩).span), ⟨line, []⟩), s) :=
  rfl

/-! ## How deep evaluation goes -/

/-- The body of evaluation at a token: an expression that starts with it, the expressions inside of
which are read as `inner`. -/
def expressionAt (t : Token) (inner : Reading Entity) : Reading Entity := do
  match t.kind with
  | .finish => missing
  | .invalid => throw t.invalidFailure
  | .openParen => do
    advance
    let e ← inner
    closed t e
  | .word => do
    advance
    match (← session).env.lookup t.text with
    | some e => return e
    | none =>
      match Constructor.ofKeyword? t.text with
      | none => raise (.undefinedName t.text) t.span
      | some k => do Action.enter (← construct k t inner)
  | _ => raise .nameOrConstructorRequired t.span

/-- The body of evaluation at the cursor. -/
def expression (inner : Reading Entity) : Reading Entity := do
  expressionAt (← current) inner

/-- The body of evaluation inside itself, to a depth below which anything may stand. -/
def nested (bottom : Reading Entity) : Nat → Reading Entity
  | 0 => bottom
  | n + 1 => expression (nested bottom n)

/-- The body of evaluation is evaluation, if what is inside is evaluated where it is read: behind a
token of those that are ahead. -/
theorem run_expression {inner : Reading Entity} {ts : List Token}
    (hfinish : ∀ t ∈ ts, t.kind ≠ .finish)
    (h : ∀ u later, u :: later <:+ ts → inner.run ⟨line, later⟩ s = evaluate.run ⟨line, later⟩ s) :
    (expression inner).run ⟨line, ts⟩ s = evaluate.run ⟨line, ts⟩ s := by
  cases ts with
  | nil =>
    rw [run_evaluate_nil]
    rfl
  | cons t rest =>
    change (expressionAt t inner).run ⟨line, t :: rest⟩ s = _
    unfold expressionAt
    cases hkind : t.kind with
    | finish => exact absurd hkind (hfinish t List.mem_cons_self)
    | openParen =>
      rw [run_evaluate_paren hkind, run_bind evaluate, ← h t rest (List.suffix_refl _)]
      exact run_bind inner (closed t) ⟨line, rest⟩ s
    | word =>
      dsimp only
      rw [run_bind, gives_advance]
      dsimp only
      rw [run_bind, gives_session]
      dsimp only
      cases henv : s.env.lookup t.text with
      | some e => exact (run_evaluate_bound hkind henv).symm
      | none =>
        dsimp only
        cases hword : Constructor.ofKeyword? t.text with
        | none => exact (run_evaluate_undefined hkind henv hword).symm
        | some k =>
          rw [run_evaluate_constructor hkind henv hword, run_bind (construct k t evaluate),
            ← run_construct_congr k t evaluate]
          · exact run_bind _ _ ⟨line, rest⟩ s
          · rintro x arguments rfl
            exact h x arguments (List.suffix_cons t _)
    | _ => rw [run_evaluate_other (by simp [hkind]) (by simp [hkind]), hkind]; rfl

/-- **Evaluation goes no deeper than there are tokens ahead.** What stands below that depth does not
matter. -/
theorem run_nested (bottom : Reading Entity) {n : Nat} {ts : List Token}
    (hfinish : ∀ t ∈ ts, t.kind ≠ .finish) (hn : ts.length < n) :
    (nested bottom n).run ⟨line, ts⟩ s = evaluate.run ⟨line, ts⟩ s := by
  induction n generalizing ts with
  | zero => omega
  | succ n ih =>
    refine run_expression hfinish fun u later hsuffix => ?_
    have hlength := hsuffix.length_le
    rw [List.length_cons] at hlength
    exact ih (fun t ht => hfinish t (hsuffix.subset (List.mem_cons_of_mem _ ht))) (by omega)

end Reading

end DriverBench
