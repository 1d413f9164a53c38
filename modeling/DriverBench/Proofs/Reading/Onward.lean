import DriverBench.Proofs.Reading.Progress
/-!
# Readings that only go onward

A reading that fails leaves the cursor where it stood at that moment. However a reading ends, its
cursor stands before a rest of the tokens that were ahead (`Onward`): it never goes back, and it
never goes beyond the end of the line.

A loop is defined with a check that its step has moved the cursor, so that it can be seen to end.
The plain loop, which has no such check, may go on for ever; `Repeats` says that it does not, what
it comes to and in how many rounds. Where a step takes a token whenever it goes on, the loop is the
plain one, and it has at most one round more than there are tokens ahead.
-/

namespace DriverBench

open Device Number Simulator

variable {line : String} {α β σ : Type}

namespace Reading

/-- However a reading ends, its cursor stands where it stood or further along the line. -/
def Onward (r : Reading α) : Prop :=
  ∀ (c : Cursor) (s : Session), c.Leads (r.run c s).1.2

/-! ## Putting readings together -/

@[simp] theorem onward_pure (a : α) : Onward (pure a) := fun c _ => .refl c

@[simp] theorem onward_throw (f : Failure) : Onward (throw f : Reading α) := fun c _ => .refl c

@[simp] theorem onward_raise (f : Fault) (span : Span) : Onward (raise f span : Reading α) :=
  fun c _ => .refl c

@[simp] theorem onward_bind {r : Reading α} {f : α → Reading β} (h : Onward r)
    (hf : ∀ a, Onward (f a)) : Onward (r >>= f) := by
  intro c s
  have h₁ := h c s
  rw [run_bind]
  rcases hr : r.run c s with ⟨⟨a | a, c'⟩, s'⟩
  · rw [hr] at h₁
    exact h₁
  · rw [hr] at h₁
    exact h₁.trans (hf a c' s')

@[simp] theorem onward_map {r : Reading α} {f : α → β} (h : Onward r) : Onward (f <$> r) := by
  rw [← bind_pure_comp]
  exact onward_bind h fun _ => onward_pure _

@[simp] theorem onward_ite {p : Prop} [Decidable p] {a b : Reading α} (ha : Onward a)
    (hb : Onward b) : Onward (if p then a else b) := by
  split <;> assumption

/-- A reading with something in front that is done in one case only. -/
theorem onward_when {p : Prop} [Decidable p] {a : Reading PUnit} {r : Reading α} (ha : Onward a)
    (hr : Onward r) : Onward (if p then a >>= fun _ => r else r) :=
  onward_ite (onward_bind ha fun _ => hr) hr

/-- What acts on the session leaves the cursor where it is. -/
@[simp] theorem onward_liftM (a : Action α) : Onward (liftM a) := fun c _ => .refl c

@[simp] theorem onward_loop {step : σ → Reading (Step σ)} (h : ∀ a, Onward (step a)) (a : σ) :
    Onward (loop step a) := by
  intro c s
  change c.Leads (loopFrom step a c s).1.2
  fun_induction loopFrom step a c s with
  | case1 a c s f c' s' hr => simpa only [hr] using h a c s
  | case2 a c s b c' s' hr => simpa only [hr] using h a c s
  | case3 a c s b c' s' hr hlt ih =>
    have h₁ := h a c s
    rw [hr] at h₁
    exact h₁.trans ih
  | case4 a c s b c' s' hr hlt => simpa only [hr] using h a c s

@[simp] theorem onward_holding {r : Reading α} (e : Entity) (h : Onward r) :
    Onward (holding e r) :=
  h

@[simp] theorem onward_undoing {r : Reading α} (k : Handle) (h : Onward r) :
    Onward (undoing k r) := by
  intro c s
  have h₁ := h c s
  rw [run_undoing]
  rcases hr : r.run c s with ⟨⟨a | a, c'⟩, s'⟩ <;> · rw [hr] at h₁; exact h₁

/-! ## Reading tokens -/

@[simp] theorem onward_cursor : Onward cursor := fun c _ => .refl c

@[simp] theorem onward_session : Onward session := fun c _ => .refl c

@[simp] theorem onward_change (f : Session → Session) : Onward (change f) := fun c _ => .refl c

@[simp] theorem onward_advance : Onward advance := fun c _ => c.leads_advance

@[simp] theorem onward_lift (value : Except Failure α) : Onward (lift value) := by
  cases value
  · exact onward_throw _
  · exact onward_pure _

@[simp] theorem onward_current : Onward current := by simp [current]

@[simp] theorem onward_here : Onward here := by simp [here]

@[simp] theorem onward_hasMore : Onward hasMore := by simp [hasMore]

@[simp] theorem onward_consume : Onward consume := by simp [consume]

@[simp] theorem onward_accept (kind : TokenKind) : Onward (accept kind) := by
  intro c s
  rw [run_accept]
  split
  · exact c.leads_advance
  · exact .refl c

@[simp] theorem onward_skip (kind : TokenKind) : Onward (skip kind) := by simp [skip]

theorem onward_require {kind : TokenKind} (fault : Fault) (hk : kind ≠ .invalid) :
    Onward (require kind fault) := by
  intro c s
  rw [run_require fault hk]
  split
  · exact c.leads_advance
  · exact .refl c

@[simp] theorem onward_requireDriver (keyword : String) (span : Span) :
    Onward (requireDriver keyword span) := by
  simp [requireDriver]

@[simp] theorem onward_openArguments (keyword : String) : Onward (openArguments keyword) := by
  simp [openArguments]

@[simp] theorem onward_closeArguments : Onward closeArguments := by
  simp [closeArguments, onward_require]

@[simp] theorem onward_comma : Onward comma := by simp [comma, onward_require]

@[simp] theorem onward_constantToken (what : String) : Onward (constantToken what) := by
  unfold constantToken
  exact onward_bind onward_current fun t => onward_when (onward_raise _ _) (by simp)

@[simp] theorem onward_numberArgument (type : IntegerType) (what : String) :
    Onward (numberArgument type what) := by
  simp [numberArgument]

@[simp] theorem onward_sizeArgument (what : String) : Onward (sizeArgument what) := by
  simp [sizeArgument]

/-! ## Loops without a check -/

/-- **The plain loop.** From a value, a cursor and a session on, repeating a step until it fails or
says that it is done comes to a result in a number of rounds. -/
inductive Repeats (step : σ → Reading (Step σ)) :
    σ → Cursor → Session → Nat → (Except Failure σ × Cursor) × Session → Prop
  | fails {a : σ} {c c' : Cursor} {s s' : Session} {f : Failure} :
      (step a).run c s = ((.error f, c'), s') → Repeats step a c s 1 ((.error f, c'), s')
  | done {a b : σ} {c c' : Cursor} {s s' : Session} :
      (step a).run c s = ((.ok (.done b), c'), s') → Repeats step a c s 1 ((.ok b, c'), s')
  | next {a b : σ} {c c' : Cursor} {s s' : Session} {n : Nat}
      {r : (Except Failure σ × Cursor) × Session} :
      (step a).run c s = ((.ok (.next b), c'), s') → Repeats step b c' s' n r →
      Repeats step a c s (n + 1) r

/-- **A loop over parts that take tokens is the plain loop.** The tokens ahead bound its rounds. -/
theorem exists_repeats {step : σ → Reading (Step σ)}
    (h : ∀ a, Advances line (step a) fun _ => True) (a : σ) {c : Cursor} (hc : c.On line)
    (s : Session) :
    ∃ n ≤ c.pending.length + 1, Repeats step a c s n ((loop step a).run c s) := by
  change ∃ n ≤ c.pending.length + 1, Repeats step a c s n (loopFrom step a c s)
  fun_induction loopFrom step a c s with
  | case1 a c s f c' s' hr => exact ⟨1, by omega, .fails hr⟩
  | case2 a c s b c' s' hr => exact ⟨1, by omega, .done hr⟩
  | case3 a c s b c' s' hr hlt ih =>
    have h₁ := h a c s hc
    rw [hr] at h₁
    obtain ⟨n, hn, hrepeats⟩ := ih (hc.of_leads h₁.2.1)
    exact ⟨n + 1, by omega, .next hr hrepeats⟩
  | case4 a c s b c' s' hr hlt =>
    have h₁ := h a c s hc
    rw [hr] at h₁
    exact absurd h₁.2.2 hlt

/-- How a loop along a line ends, from wherever on the line it starts: a step that goes on has moved
the cursor, no step and no run moves it back or beyond the end of the line, and the plain loop comes
to the same in at most one round more than there are tokens ahead. -/
structure Ends (line : String) (step : σ → Reading (Step σ)) : Prop where
  step_onward : ∀ a, Onward (step a)
  step_moves : ∀ {a b : σ} {c c' : Cursor} {s s' : Session}, (Cursor.ofLine line).Leads c →
    (step a).run c s = ((.ok (.next b), c'), s') → c'.pending.length < c.pending.length
  loop_onward : ∀ a, Onward (loop step a)
  rounds : ∀ (a : σ) {c : Cursor} (s : Session), (Cursor.ofLine line).Leads c →
    ∃ n ≤ c.pending.length + 1, Repeats step a c s n ((loop step a).run c s)

theorem Ends.of_advances {step : σ → Reading (Step σ)} (ho : ∀ a, Onward (step a))
    (h : ∀ a, Advances line (step a) fun _ => True) : Ends line step where
  step_onward := ho
  step_moves {a _ c _ s _} hlead hr := by
    have h₁ := h a c s ((Cursor.on_ofLine line).of_leads hlead)
    rw [hr] at h₁
    exact h₁.2.2
  loop_onward := onward_loop ho
  rounds a _ s hlead := exists_repeats h a ((Cursor.on_ofLine line).of_leads hlead) s

end Reading

end DriverBench
