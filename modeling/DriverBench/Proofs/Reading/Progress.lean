import DriverBench.Proofs.Reading.Place
/-!
# Readings that take a token

Most parts of a line have at least one token, and a reading that gives one without failing has taken
it (`Takes`). A loop over such parts goes on only behind a token, so it never ends for want of
progress: it does what its step says, and then the same again (`Unrolls`). The tokens ahead bound
the rounds.
-/

namespace DriverBench

open Device Number Simulator

variable {line : String} {α β σ : Type}

namespace Reading

/-- A reading that points into the line, and that has taken a token if it does not fail. -/
def Takes (line : String) (r : Reading α) (Q : α → Prop) : Prop :=
  ∀ c s, c.On line → match r.run c s with
    | ((.ok a, c'), _) => Q a ∧ c.Leads c' ∧ c'.pending.length < c.pending.length
    | ((.error f, _), _) => f.Points line

variable {Q : α → Prop} {Q' : β → Prop}

theorem Takes.points {r : Reading α} (h : Takes line r Q) : Points line r Q := by
  intro c s hc
  have h₁ := h c s hc
  rcases hr : r.run c s with ⟨⟨a | a, c'⟩, s'⟩
  · rw [hr] at h₁
    exact h₁
  · rw [hr] at h₁
    exact ⟨h₁.1, h₁.2.1⟩

theorem takes_throw {f : Failure} (h : f.Points line) : Takes line (throw f : Reading α) Q :=
  fun _ _ _ => h

theorem takes_raise {sp : Span} (f : Fault) (h : sp.In line) :
    Takes line (raise f sp : Reading α) Q :=
  takes_throw (f.points_atSpan h)

/-- A token that the first part takes has been taken by the whole. -/
theorem takes_bind {r : Reading α} {f : α → Reading β} (h : Takes line r Q)
    (hf : ∀ a, Q a → Points line (f a) Q') : Takes line (r >>= f) Q' := by
  intro c s hc
  have h₁ := h c s hc
  rw [run_bind]
  rcases hr : r.run c s with ⟨⟨a | a, c'⟩, s'⟩
  · rw [hr] at h₁
    exact h₁
  · rw [hr] at h₁
    obtain ⟨ha, hleads, hlt⟩ := h₁
    have h₂ := hf a ha c' s' (hc.of_leads hleads)
    dsimp only
    rcases hr' : (f a).run c' s' with ⟨⟨b | b, c''⟩, s''⟩
    · rw [hr'] at h₂
      exact h₂
    · rw [hr'] at h₂
      exact ⟨h₂.1, hleads.trans h₂.2, Nat.lt_of_le_of_lt h₂.2.length_le hlt⟩

/-- A token that the second part takes has been taken by the whole. -/
theorem takes_of_points_bind {r : Reading α} {f : α → Reading β} (h : Points line r Q)
    (hf : ∀ a, Q a → Takes line (f a) Q') : Takes line (r >>= f) Q' := by
  intro c s hc
  have h₁ := h c s hc
  rw [run_bind]
  rcases hr : r.run c s with ⟨⟨a | a, c'⟩, s'⟩
  · rw [hr] at h₁
    exact h₁
  · rw [hr] at h₁
    obtain ⟨ha, hleads⟩ := h₁
    have h₂ := hf a ha c' s' (hc.of_leads hleads)
    dsimp only
    rcases hr' : (f a).run c' s' with ⟨⟨b | b, c''⟩, s''⟩
    · rw [hr'] at h₂
      exact h₂
    · rw [hr'] at h₂
      obtain ⟨hb, hleads', hlt⟩ := h₂
      exact ⟨hb, hleads.trans hleads', Nat.lt_of_lt_of_le hlt hleads.length_le⟩

/-- Behind a check that fails at a place of the line. -/
theorem takes_guard {p : Prop} [Decidable p] {f : Fault} {sp : Span} {r : Reading α}
    (hsp : sp.In line) (hr : Takes line r Q) :
    Takes line (if p then (raise f sp : Reading PUnit) >>= fun _ => r else r) Q := by
  by_cases hp : p
  · rw [if_pos hp]
    exact takes_bind (takes_raise (Q := fun _ => True) f hsp) fun _ _ => hr.points
  · rw [if_neg hp]
    exact hr

theorem takes_require {kind : TokenKind} (fault : Fault) (hi : kind ≠ .invalid)
    (hf : kind ≠ .finish) : Takes line (require kind fault) (Token.In line) := by
  intro c s hc
  rw [run_require fault hi]
  by_cases h : c.current.kind = kind
  · rw [if_pos h]
    exact ⟨hc.current, c.leads_advance, Cursor.length_advance_lt (h ▸ hf)⟩
  · rw [if_neg h]
    exact Fault.points_atSpan _ hc.current.span

theorem takes_constantToken (what : String) :
    Takes line (constantToken what) (Token.In line) := by
  intro c s hc
  have hcurrent : current.run c s = ((.ok c.current, c), s) := rfl
  unfold constantToken
  rw [run_bind, hcurrent]
  dsimp only
  by_cases h : c.current.kind = .constant
  · have hne : c.current.kind ≠ .finish := by simp [h]
    rw [if_neg (not_not_intro h)]
    exact ⟨hc.current, c.leads_advance, Cursor.length_advance_lt hne⟩
  · rw [if_pos h]
    exact Fault.points_atSpan _ hc.current.span

/-! ## Loops -/

/-- A step of a loop that points into the line and keeps an invariant, and that has taken a token if
the loop is to go on. -/
def Advances (line : String) (r : Reading (Step σ)) (I : σ → Prop) : Prop :=
  ∀ c s, c.On line → match r.run c s with
    | ((.ok (.done a), c'), _) => I a ∧ c.Leads c'
    | ((.ok (.next a), c'), _) => I a ∧ c.Leads c' ∧ c'.pending.length < c.pending.length
    | ((.error f, _), _) => f.Points line

variable {I : σ → Prop}

theorem Advances.points {r : Reading (Step σ)} (h : Advances line r I) :
    Points line r fun st => I st.value := by
  intro c s hc
  have h₁ := h c s hc
  rcases hr : r.run c s with ⟨⟨f | a | a, c'⟩, s'⟩
  · rw [hr] at h₁
    exact h₁
  · rw [hr] at h₁
    exact ⟨h₁.1, h₁.2.1⟩
  · rw [hr] at h₁
    exact h₁

theorem Takes.advances {r : Reading (Step σ)} (h : Takes line r fun st => I st.value) :
    Advances line r I := by
  intro c s hc
  have h₁ := h c s hc
  rcases hr : r.run c s with ⟨⟨f | a | a, c'⟩, s'⟩
  · rw [hr] at h₁
    exact h₁
  · rw [hr] at h₁
    exact h₁
  · rw [hr] at h₁
    exact ⟨h₁.1, h₁.2.1⟩

theorem advances_done {a : σ} (h : I a) : Advances line (pure (.done a)) I :=
  fun c _ _ => ⟨h, .refl c⟩

theorem advances_bind {r : Reading α} {f : α → Reading (Step σ)} (h : Points line r Q)
    (hf : ∀ a, Q a → Advances line (f a) I) : Advances line (r >>= f) I := by
  intro c s hc
  have h₁ := h c s hc
  rw [run_bind]
  rcases hr : r.run c s with ⟨⟨a | a, c'⟩, s'⟩
  · rw [hr] at h₁
    exact h₁
  · rw [hr] at h₁
    obtain ⟨ha, hleads⟩ := h₁
    have h₂ := hf a ha c' s' (hc.of_leads hleads)
    dsimp only
    rcases hr' : (f a).run c' s' with ⟨⟨b | b | b, c''⟩, s''⟩
    · rw [hr'] at h₂
      exact h₂
    · rw [hr'] at h₂
      obtain ⟨hb, hleads', hlt⟩ := h₂
      exact ⟨hb, hleads.trans hleads', Nat.lt_of_lt_of_le hlt hleads.length_le⟩
    · rw [hr'] at h₂
      exact ⟨h₂.1, hleads.trans h₂.2⟩

theorem advances_ite {p : Prop} [Decidable p] {a b : Reading (Step σ)} (ha : Advances line a I)
    (hb : Advances line b I) : Advances line (if p then a else b) I := by
  split <;> assumption

/-- A step that starts with a token that is there. -/
theorem advances_consume {f : Token → Reading (Step σ)} {c : Cursor} (hc : c.On line)
    (hk : c.current.kind ≠ .finish) (hf : ∀ t, t.In line → Points line (f t) fun st => I st.value)
    (s : Session) : match (consume >>= f).run c s with
      | ((.ok (.done a), c'), _) => I a ∧ c.Leads c'
      | ((.ok (.next a), c'), _) => I a ∧ c.Leads c' ∧ c'.pending.length < c.pending.length
      | ((.error f, _), _) => f.Points line := by
  have hrun : (consume >>= f).run c s = (f c.current).run c.advance s := rfl
  have h := hf c.current hc.current c.advance s (hc.of_leads c.leads_advance)
  have hlt := Cursor.length_advance_lt hk
  rw [hrun]
  rcases hr : (f c.current).run c.advance s with ⟨⟨g | a | a, c'⟩, s'⟩
  · rw [hr] at h
    exact h
  · rw [hr] at h
    exact ⟨h.1, c.leads_advance.trans h.2, Nat.lt_of_le_of_lt h.2.length_le hlt⟩
  · rw [hr] at h
    exact ⟨h.1, c.leads_advance.trans h.2⟩

/-- A loop does on the line just what its step says: it repeats the step for as long as that goes
on. -/
def Unrolls (line : String) (step : σ → Reading (Step σ)) : Prop :=
  ∀ a c s, c.On line → (loop step a).run c s = match (step a).run c s with
    | ((.error f, c'), s') => ((.error f, c'), s')
    | ((.ok (.done b), c'), s') => ((.ok b, c'), s')
    | ((.ok (.next b), c'), s') => (loop step b).run c' s'

/-- **A loop over parts that take tokens never ends for want of progress.** -/
theorem unrolls_of_advances {step : σ → Reading (Step σ)}
    (h : ∀ a, Advances line (step a) fun _ => True) : Unrolls line step := by
  intro a c s hc
  have h₁ := h a c s hc
  change loopFrom step a c s = _
  rw [loopFrom]
  rcases hr : (step a).run c s with ⟨⟨f | b | b, c'⟩, s'⟩
  · rfl
  · rw [hr] at h₁
    exact if_pos h₁.2.2
  · rfl

end Reading

end DriverBench
