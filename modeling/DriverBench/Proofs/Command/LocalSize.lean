import DriverBench.Proofs.Command.InFlight
import DriverBench.Proofs.Command.Operands
import DriverBench.Proofs.Expression.Recursion
/-!
# The local size of a launch

A list in parentheses that begins with a number is no object: in parentheses stands an expression,
and none begins with a number. So there is nothing to choose for an item of `run` that is such a
list. As the first item it is read as a local size (`run_launchItem_of_constant`), and a later one
cannot be read at all (`run_launchLoop_of_constant`).
-/

namespace DriverBench

open Device Number Simulator

namespace Statement

open Reading

variable {globalSize : List Nat} {found : LaunchRest} {line : String} {comma opening number : Token}
  {rest : List Token} {c c' : Cursor} {s t : Session}

/-- What begins with a number in parentheses is no object. -/
theorem run_kernelValue_of_constant (hopening : opening.kind = .openParen)
    (hnumber : number.kind = .constant) :
    kernelValue.run ⟨line, opening :: number :: rest⟩ s =
      ((.error (Fault.nameOrConstructorRequired.atSpan number.span),
        ⟨line, number :: rest⟩), s) := by
  have hconstant : opening.kind ≠ .constant := by rw [hopening]; decide
  have hevaluate : evaluate.run ⟨line, number :: rest⟩ s =
      ((.error (Fault.nameOrConstructorRequired.atSpan number.span),
        ⟨line, number :: rest⟩), s) := by
    rw [run_evaluate_other (by rw [hnumber]; decide) (by rw [hnumber]; decide),
      if_neg (by rw [hnumber]; decide)]
  unfold kernelValue evaluateKept
  rw [run_bind, gives_current]
  dsimp only
  rw [if_neg hconstant, run_bind, run_bind, run_evaluate_paren hopening, run_bind, hevaluate]

/-- **A list that begins with a number** is read as a local size where there is neither one nor an
object in front of it; elsewhere the item cannot be read. -/
theorem run_launchItem_of_constant (hcomma : comma.kind = .comma)
    (hopening : opening.kind = .openParen) (hnumber : number.kind = .constant) :
    (launchItem globalSize found).run ⟨line, comma :: opening :: number :: rest⟩ s =
      if found.localSize = none ∧ found.values = [] then
        (localSize globalSize >>= fun sizes =>
          pure (Step.next { found with localSize := some sizes })).run
            ⟨line, opening :: number :: rest⟩ s
      else ((.error (Fault.nameOrConstructorRequired.atSpan number.span),
        ⟨line, number :: rest⟩), s) := by
  have hopen : Gives (skip .closeParen) ⟨line, comma :: opening :: number :: rest⟩ s false
      ⟨line, comma :: opening :: number :: rest⟩ s := gives_skip_of_ne (by rw [hcomma]; decide)
  have hahead : Gives (localSizeAhead found) ⟨line, opening :: number :: rest⟩ s
      (found.localSize.isNone && found.values.isEmpty) ⟨line, opening :: number :: rest⟩ s := by
    have hrun : (localSizeAhead found).run ⟨line, opening :: number :: rest⟩ s =
        ((.ok (found.localSize.isNone && found.values.isEmpty && opening.kind == .openParen &&
          (Cursor.next ⟨line, opening :: number :: rest⟩).kind == .constant),
          ⟨line, opening :: number :: rest⟩), s) := rfl
    have hnext : Cursor.next ⟨line, opening :: number :: rest⟩ = number :=
      Cursor.next_cons (by rw [hopening]; decide) (by rw [hopening]; decide)
    rw [Gives, hrun, hnext, hopening, hnumber, beq_self_eq_true, beq_self_eq_true, Bool.and_true,
      Bool.and_true]
  unfold launchItem
  rw [run_bind, hopen]
  dsimp only
  rw [if_neg Bool.false_ne_true, run_bind, gives_require (by decide) hcomma]
  dsimp only
  rw [run_bind, hahead]
  dsimp only
  by_cases hfirst : found.localSize = none ∧ found.values = []
  · rw [if_pos hfirst, if_pos (by simp [hfirst])]
  · rw [if_neg hfirst, if_neg (by simpa using hfirst), run_bind,
      run_kernelValue_of_constant hopening hnumber]

/-- Behind the first item something has been found. -/
theorem eq_or_found_of_iterates {a : LaunchRest}
    (h : Iterates (launchItem globalSize) a c s found c' t) :
    found = a ∧ c' = c ∧ t = s ∨
      c'.pending.length < c.pending.length ∧ (found.localSize ≠ none ∨ found.values ≠ []) := by
  induction h with
  | start => exact .inl ⟨rfl, rfl, rfl⟩
  | next hstep hlt _ ih =>
    refine .inr ?_
    obtain ⟨rfl, rfl, rfl⟩ | ⟨hless, hfound⟩ := ih
    · refine ⟨hlt, ?_⟩
      obtain ⟨-, -, -, hnext, -⟩ | ⟨-, -, ⟨-, sizes, -, -, -, -, -, hnext, -⟩ |
        ⟨v, e, -, -, -, -, hnext⟩⟩ := gives_launchItem_inv hstep
      · cases hnext
      · cases hnext
        exact .inl (by simp)
      · cases hnext
        exact .inr (by simp)
    · exact ⟨Nat.lt_trans hless hlt, hfound⟩

/-- **A local size** is what the first item behind the global size is, if it is a list that begins
with a number. No later item is a list like that. -/
theorem run_launchLoop_of_constant
    (h : Iterates (launchItem globalSize) {} c s found c' t)
    (hpending : c'.pending = comma :: opening :: number :: rest) (hcomma : comma.kind = .comma)
    (hopening : opening.kind = .openParen) (hnumber : number.kind = .constant) :
    (c' = c → (loop (launchItem globalSize) {}).run c s = (do
      let sizes ← localSize globalSize
      loop (launchItem globalSize) { localSize := some sizes }).run c.advance s) ∧
    (c' ≠ c → (loop (launchItem globalSize) {}).run c s =
      ((.error (Fault.nameOrConstructorRequired.atSpan number.span), ⟨c'.line, number :: rest⟩),
        t)) := by
  obtain ⟨line, pending⟩ := c'
  obtain rfl : pending = comma :: opening :: number :: rest := hpending
  have hitem : (launchItem globalSize found).run ⟨line, comma :: opening :: number :: rest⟩ t = _ :=
    run_launchItem_of_constant hcomma hopening hnumber
  obtain ⟨rfl, rfl, rfl⟩ | ⟨hless, hfound⟩ := eq_or_found_of_iterates h
  · refine ⟨fun _ => ?_, fun hne => absurd rfl hne⟩
    rw [if_pos ⟨rfl, rfl⟩, run_bind] at hitem
    rw [run_bind, Cursor.advance_cons]
    rcases hr : (localSize globalSize).run ⟨line, opening :: number :: rest⟩ t with
      ⟨⟨f | sizes, c₁⟩, s₁⟩
    · rw [hr] at hitem
      rw [run_loop_of_error hitem]
    · -- A local size has been taken from what is ahead, so the loop goes on behind it.
      rw [hr] at hitem
      obtain ⟨ts, hts, -, -⟩ := isLocalSize_of_gives hr
      refine run_loop_of_next hitem ?_
      have hlength := congrArg (fun c => c.pending.length) hts
      simp only [List.length_append, List.length_cons] at hlength ⊢
      omega
  · refine ⟨fun heq => ?_, fun _ => ?_⟩
    · rw [heq] at hless
      exact absurd hless (Nat.lt_irrefl _)
    · rw [h.run_loop]
      rw [if_neg fun hnone => hfound.elim (absurd hnone.1) (absurd hnone.2)] at hitem
      exact run_loop_of_error hitem

end Statement

end DriverBench
