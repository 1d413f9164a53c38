import DriverBench.Proofs.Command.Place
import DriverBench.Proofs.Expression.Onward
import DriverBench.Proofs.Expression.Recursion
import DriverBench.Proofs.Token.Grammar
/-!
# Reading a line comes to an end

Moving on at the end of a line does nothing, and most loops over arguments do not look whether they
are there. What they rely on is that each round reads something: an expression or a number, which is
not read without taking a token, or a comma. So every loop leaves or moves the cursor, in each round
and on every line, and evaluation, which calls itself behind a token only, goes no deeper than there
are tokens (`reading_ends`).
-/

namespace DriverBench

open Device Number Simulator

variable {line : String} {c : Cursor} {s : Session}

namespace Reading

/-! ## The arguments of commands -/

@[simp] theorem onward_workDimension (sizes : List Nat) : Onward (workDimension sizes) := by
  unfold workDimension
  refine onward_bind (onward_sizeArgument _) fun size => ?_
  exact onward_bind (onward_skip _) fun more => by split <;> simp

@[simp] theorem onward_workSize : Onward workSize := by
  unfold workSize
  refine onward_bind (onward_require _ (by simp)) fun opening => ?_
  refine onward_bind (onward_loop onward_workDimension []) fun sizes => ?_
  exact onward_bind (onward_require _ (by simp)) fun closing =>
    onward_when (onward_raise _ _) (onward_pure _)

@[simp] theorem onward_kernelValue : Onward kernelValue := by
  unfold kernelValue evaluateKept
  exact onward_bind onward_current fun t => onward_when (onward_raise _ _) (by simp)

/-- One round of moving behind the valid tokens. -/
def validStep (_ : Unit) : Reading (Step Unit) := do
  if !(← hasMore) then return .done ()
  advance
  return .next ()

theorem onward_validStep (u : Unit) : Onward (validStep u) := by
  unfold validStep
  exact onward_bind onward_hasMore fun more => onward_ite (onward_pure _) (by simp)

theorem run_validStep (u : Unit) (c : Cursor) (s : Session) :
    (validStep u).run c s =
      if c.hasMore then ((.ok (.next ()), c.advance), s) else ((.ok (.done ()), c), s) := by
  have hmore : hasMore.run c s = ((.ok c.hasMore, c), s) := rfl
  unfold validStep
  rw [run_bind, hmore]
  cases c.hasMore <;> rfl

theorem advances_validStep (u : Unit) : Advances line (validStep u) fun _ => True := by
  intro c s hc
  rw [run_validStep]
  by_cases h : c.hasMore = true
  · rw [if_pos h]
    exact ⟨trivial, c.leads_advance,
      Cursor.length_advance_lt (Cursor.kind_ne_finish_of_hasMore h)⟩
  · rw [if_neg h]
    exact ⟨trivial, .refl c⟩

/-- The loop moves behind all valid tokens. -/
theorem run_loop_validStep (hc : c.On line) (hfinish : ∀ t ∈ c.pending, t.kind ≠ .finish) :
    (loop validStep ()).run c s = skipValid.run c s := by
  have hskip : ∀ c : Cursor, skipValid.run c s =
      ((.ok (), { c with pending := c.pending.dropWhile (·.kind ≠ .invalid) }), s) := fun _ => rfl
  obtain ⟨text, ts⟩ := c
  induction ts with
  | nil =>
    rw [unrolls_of_advances advances_validStep () _ s hc, run_validStep]
    rfl
  | cons t rest ih =>
    have hrest : Cursor.On line ⟨text, rest⟩ := hc.of_leads (Cursor.leads_advance ⟨text, t :: rest⟩)
    have ht := hfinish t List.mem_cons_self
    rw [unrolls_of_advances advances_validStep () _ s hc, run_validStep, hskip]
    by_cases hkind : t.kind = .invalid
    · have hmore : Cursor.hasMore ⟨text, t :: rest⟩ = false := by
        simp [Cursor.hasMore, Cursor.current, hkind]
      rw [hmore, List.dropWhile_cons_of_neg (by simp [hkind])]
      rfl
    · rw [Cursor.hasMore_cons ht hkind, List.dropWhile_cons_of_pos (by simp [hkind]),
        ← hskip ⟨text, rest⟩]
      exact ih hrest fun u hu => hfinish u (List.mem_cons_of_mem _ hu)

end Reading

namespace Statement

open Reading

@[simp] theorem onward_localSizeAhead (found : LaunchRest) : Onward (localSizeAhead found) := by
  simp [localSizeAhead]

@[simp] theorem onward_localSize (globalSize : List Nat) : Onward (localSize globalSize) := by
  unfold localSize
  refine onward_bind onward_current fun t => onward_bind onward_workSize fun sizes => ?_
  exact onward_when (onward_raise _ _) (onward_pure _)

theorem onward_launchItem (globalSize : List Nat) (found : LaunchRest) :
    Onward (launchItem globalSize found) := by
  unfold launchItem
  refine onward_bind (onward_skip _) fun closing => onward_ite (onward_pure _) ?_
  refine onward_bind (onward_require _ (by simp)) fun _ => ?_
  exact onward_bind (onward_localSizeAhead found) fun ahead => onward_ite (by simp) (by simp)

theorem onward_boundValue (values : List (Token × Entity)) : Onward (boundValue values) := by
  unfold boundValue
  refine onward_bind (onward_skip _) fun _ => onward_bind onward_hasMore fun more => ?_
  exact onward_ite (onward_pure _) (by simp)

theorem onward_releasedName (names : List String) : Onward (releasedName names) := by
  unfold releasedName
  refine onward_bind onward_hasMore fun more => onward_ite (onward_pure _) ?_
  refine onward_bind onward_consume fun t => onward_ite (onward_pure _) ?_
  refine onward_when (onward_raise _ _) (onward_bind onward_session fun s => ?_)
  exact onward_when (onward_raise _ _) (onward_pure _)

end Statement

namespace Reading

open Statement

/-- The tokens of a line are those that were taken, those ahead of the cursor and the end, and the
end is the last of them only. -/
theorem exists_taken (h : (Cursor.ofLine line).Leads c) : ∃ taken,
    Token.tokenize line = taken ++ c.pending ++ [c.finish] ∧ c.finish.kind = .finish ∧
      ∀ t ∈ taken ++ c.pending, t.kind ≠ .finish := by
  obtain ⟨taken, htaken⟩ := h.suffix
  refine ⟨taken, ?_, rfl, ?_⟩
  · rw [htaken, Cursor.finish, h.line_eq]
    rfl
  · rw [htaken]
    exact (Cursor.Leads.refl (Cursor.ofLine line)).kind_ne_finish

/-- **Reading ends on every line.** Wherever on a line a cursor stands, and whatever the session,
evaluation is what its body makes of it in as many levels as there are tokens ahead, and one more;
it leaves the cursor further along the line, and behind a token if it succeeds. The loops over the
elements of an array, the dimensions of a work size, the items of a launch, the values that are
bound, the names that are released and the tokens of a path leave or move the cursor in each round,
and never back. -/
theorem reading_ends (line : String) :
    (∀ c, (Cursor.ofLine line).Leads c → ∃ taken,
      Token.tokenize line = taken ++ c.pending ++ [c.finish] ∧ c.finish.kind = .finish ∧
        ∀ t ∈ taken ++ c.pending, t.kind ≠ .finish) ∧
    (∀ c s, (Cursor.ofLine line).Leads c →
      (∀ bottom n, c.pending.length < n → (nested bottom n).run c s = evaluate.run c s) ∧
      c.Leads (evaluate.run c s).1.2 ∧
      ∀ e c' s', evaluate.run c s = ((.ok e, c'), s') → c'.pending.length < c.pending.length) ∧
    (∀ type, Ends line (arrayElement type)) ∧
    Ends line workDimension ∧
    (∀ globalSize, Ends line (launchItem globalSize)) ∧
    Ends line boundValue ∧
    Ends line releasedName ∧
    Ends line validStep ∧
    ∀ c s, (Cursor.ofLine line).Leads c → (loop validStep ()).run c s = skipValid.run c s := by
  have hon : ∀ {c : Cursor}, (Cursor.ofLine line).Leads c → c.On line :=
    fun h => (Cursor.on_ofLine line).of_leads h
  refine ⟨fun c => exists_taken, fun c s h => ⟨fun bottom n hn => ?_, onward_evaluate c s, ?_⟩,
    fun type => ?_, ?_, fun globalSize => ?_, ?_, ?_, ?_, fun c s h => ?_⟩
  · exact run_nested bottom h.kind_ne_finish hn
  · intro e c' s' hr
    have htakes := takes_evaluate c s (hon h)
    rw [hr] at htakes
    exact htakes.2.2
  · exact .of_advances (onward_arrayElement type) fun bytes =>
      (takes_arrayElement type bytes).advances
  · exact .of_advances onward_workDimension fun sizes => (takes_workDimension sizes).advances
  · exact .of_advances (onward_launchItem globalSize) fun _ =>
      advances_launchItem globalSize trivial (fun _ => trivial) fun _ _ => trivial
  · exact .of_advances onward_boundValue fun _ => advances_boundValue trivial fun _ _ => trivial
  · exact .of_advances onward_releasedName advances_releasedName
  · exact .of_advances onward_validStep advances_validStep
  · exact run_loop_validStep (hon h) h.kind_ne_finish

end Reading

end DriverBench
