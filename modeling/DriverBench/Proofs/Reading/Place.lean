import DriverBench.Proofs.Reading.Quiet
import DriverBench.Proofs.Token.Place
/-!
# Where the failures of a line point

A failure may name a place of the line that is read. The judgement `Points` says that it is a sound
place of that very line and that a failure of the division into tokens always names one. From a
cursor on a line, a reading leads to a cursor further along the line, with a value that is sound in
its turn, or it fails with such a failure.
-/

namespace DriverBench

open Device Number Simulator

/-- A failure of a line: its place is a range of the line, and it has one if the line could not be
divided into tokens. -/
structure Failure.Points (line : String) (f : Failure) : Prop where
  inside : ∀ sp ∈ f.span, sp.In line
  located : f.fault.kind = .lex → f.span.isSome

variable {line : String} {α β σ : Type}

/-- A fault at a place of the line. -/
theorem Fault.points_atSpan {sp : Span} (f : Fault) (h : sp.In line) :
    (f.atSpan sp).Points line :=
  ⟨fun _ hm => (Option.mem_some.1 hm) ▸ h, fun _ => rfl⟩

/-- A fault without a place, for any line. -/
theorem Failure.points_of_fault {f : Fault} (h : f.kind ≠ .lex) :
    Failure.Points line { fault := f } :=
  ⟨fun _ hm => absurd hm (by simp), fun hk => absurd hk h⟩

/-- Giving a failure a place of the line. -/
theorem Failure.Points.atSpan {f : Failure} {sp : Span} (h : f.Points line) (hsp : sp.In line) :
    (f.atSpan sp).Points line := by
  rcases f with ⟨fault, _ | own⟩
  · exact fault.points_atSpan hsp
  · exact ⟨h.inside, fun _ => rfl⟩

theorem Token.In.points_invalidFailure {t : Token} (h : t.In line) :
    t.invalidFailure.Points line := by
  unfold Token.invalidFailure
  split <;> exact Fault.points_atSpan _ h.span

/-! ## Actions -/

namespace Action

/-- Every failure of an action points into the line. -/
def Points (line : String) (a : Action α) : Prop :=
  ∀ s, match a.run.run s with
    | (.ok _, _) => True
    | (.error f, _) => f.Points line

@[simp] theorem points_pure (x : α) : Points line (pure x : Action α) := fun _ => trivial

@[simp] theorem points_get : Points line (get : Action Session) := fun _ => trivial

@[simp] theorem points_set (s : Session) : Points line (set s : Action PUnit) := fun _ => trivial

@[simp] theorem points_modifyGet (f : Session → α × Session) :
    Points line (modifyGet f : Action α) := fun _ => trivial

theorem points_throw {f : Failure} (h : f.Points line) : Points line (throw f : Action α) :=
  fun _ => h

@[simp] theorem points_raise {f : Fault} (h : f.kind ≠ .lex) :
    Points line (raise f : Action α) :=
  fun _ => Failure.points_of_fault h

@[simp] theorem points_bind {a : Action α} {f : α → Action β} (h : Points line a)
    (hf : ∀ x, Points line (f x)) : Points line (a >>= f) := by
  intro s
  have h₁ := h s
  rw [run_bind]
  rcases hr : a.run.run s with ⟨x | x, s'⟩
  · rw [hr] at h₁
    exact h₁
  · exact hf x s'

@[simp] theorem points_ite {p : Prop} [Decidable p] {a b : Action α} (ha : Points line a)
    (hb : Points line b) : Points line (if p then a else b) := by
  split <;> assumption

theorem points_tryCatch {a : Action α} {handle : Failure → Action α} (h : Points line a)
    (hh : ∀ f, f.Points line → Points line (handle f)) :
    Points line (tryCatch a handle : Action α) := by
  intro s
  have h₁ := h s
  rw [run_tryCatch]
  rcases hr : a.run.run s with ⟨f | x, s'⟩
  · rw [hr] at h₁
    exact hh f h₁ s'
  · trivial

theorem points_atSpan {a : Action α} {sp : Span} (h : Points line a) (hsp : sp.In line) :
    Points line (a.atSpan sp) := by
  refine points_tryCatch h fun f hf => ?_
  exact points_throw (hf.atSpan hsp)

@[simp] theorem points_print (text : String) : Points line (print text) := by
  unfold print
  refine points_bind points_get fun s => ?_
  split
  · exact points_set _
  · exact points_raise (by simp [Fault.kind])

@[simp] theorem points_printError (text : String) : Points line (printError text) := by
  unfold printError
  refine points_bind points_get fun s => ?_
  split
  · exact points_set _
  · exact points_raise (by simp [Fault.kind])

@[simp] theorem points_say (text : String) : Points line (say text) := points_print _

@[simp] theorem points_warn (text : String) : Points line (warn text) := points_printError _

@[simp] theorem points_note (text : String) : Points line (note text) := by
  unfold note
  refine points_bind points_get fun s => ?_
  exact points_ite (points_say text) (points_pure _)

@[simp] theorem points_activeDriver : Points line activeDriver := by
  unfold activeDriver
  refine points_bind points_get fun s => ?_
  split
  · exact points_pure _
  · exact points_raise (by simp [Fault.kind])

/-- What a driver refuses is no matter of the line. -/
@[simp] theorem points_drive (c : Call α) : Points line (drive c) := by
  unfold drive
  refine points_bind points_get fun s => ?_
  split
  · exact points_raise (by simp [Fault.kind])
  · split
    · exact points_raise (by simp [Fault.kind])
    · exact points_bind (points_set _) fun _ => points_pure _
    · exact points_bind (points_set _) fun _ => points_raise (by simp [Fault.kind])

@[simp] theorem points_enter (object : Object) : Points line (enter object) := by
  unfold enter
  exact points_bind points_get fun s => points_bind (points_set _) fun _ => points_pure _

@[simp] theorem points_keep (e : Entity) : Points line (keep e) := points_modifyGet _

end Action

/-! ## Readings -/

namespace Reading

/-- From a cursor on the line, a reading leads to a cursor further along and a value of a kind, or
fails and points into the line. -/
def Points (line : String) (r : Reading α) (Q : α → Prop) : Prop :=
  ∀ c s, c.On line → match r.run c s with
    | ((.ok a, c'), _) => Q a ∧ c.Leads c'
    | ((.error f, _), _) => f.Points line

variable {Q : α → Prop} {Q' : β → Prop}

theorem points_pure {a : α} (h : Q a) : Points line (pure a) Q :=
  fun c _ _ => ⟨h, .refl c⟩

theorem points_throw {f : Failure} (h : f.Points line) : Points line (throw f : Reading α) Q :=
  fun _ _ _ => h

theorem points_raise {sp : Span} (f : Fault) (h : sp.In line) :
    Points line (raise f sp : Reading α) Q :=
  points_throw (f.points_atSpan h)

theorem points_bind {r : Reading α} {f : α → Reading β} (h : Points line r Q)
    (hf : ∀ a, Q a → Points line (f a) Q') : Points line (r >>= f) Q' := by
  intro c s hc
  have h₁ := h c s hc
  rw [run_bind]
  rcases hr : r.run c s with ⟨⟨a | a, c'⟩, s'⟩
  · rw [hr] at h₁
    exact h₁
  · rw [hr] at h₁
    have h₂ := hf a h₁.1 c' s' (hc.of_leads h₁.2)
    simp only
    rcases hr' : (f a).run c' s' with ⟨⟨b | b, c''⟩, s''⟩
    · rw [hr'] at h₂
      exact h₂
    · rw [hr'] at h₂
      exact ⟨h₂.1, h₁.2.trans h₂.2⟩

theorem points_ite {p : Prop} [Decidable p] {a b : Reading α} (ha : p → Points line a Q)
    (hb : ¬ p → Points line b Q) : Points line (if p then a else b) Q := by
  by_cases hp : p
  · rw [if_pos hp]
    exact ha hp
  · rw [if_neg hp]
    exact hb hp

/-- Behind a check that fails at a place of the line. -/
theorem points_guard {p : Prop} [Decidable p] {f : Fault} {sp : Span} {r : Reading α}
    (hsp : sp.In line) (hr : Points line r Q) :
    Points line (if p then (raise f sp : Reading PUnit) >>= fun _ => r else r) Q :=
  points_ite (fun _ => points_bind (points_raise (Q := fun _ => True) f hsp) fun _ _ => hr)
    fun _ => hr

theorem points_liftM {a : Action α} (h : Action.Points line a) :
    Points line (liftM a : Reading α) fun _ => True := by
  intro c s _
  have h₁ := h s
  rw [run_liftM]
  rcases hr : a.run.run s with ⟨f | x, s'⟩
  · rw [hr] at h₁
    exact h₁
  · exact ⟨trivial, .refl c⟩

theorem points_loop {step : σ → Reading (Step σ)} {I : σ → Prop}
    (h : ∀ a, I a → Points line (step a) fun b => I b.value) {a : σ} (ha : I a) :
    Points line (loop step a) I := by
  intro c s hc
  change match loopFrom step a c s with
    | ((.ok b, c'), _) => I b ∧ c.Leads c'
    | ((.error f, _), _) => f.Points line
  fun_induction loopFrom step a c s with
  | case1 a c s f c' s' hr => simpa only [hr] using h a ha c s hc
  | case2 a c s b c' s' hr => simpa only [hr, Step.value] using h a ha c s hc
  | case3 a c s b c' s' hr hlt ih =>
    have h₁ := h a ha c s hc
    rw [hr] at h₁
    have h₂ := ih h₁.1 (hc.of_leads h₁.2)
    rcases hr' : loopFrom step b c' s' with ⟨⟨b' | b', c''⟩, s''⟩
    · rw [hr'] at h₂
      exact h₂
    · rw [hr'] at h₂
      exact ⟨h₂.1, h₁.2.trans h₂.2⟩
  | case4 a c s b c' s' hr hlt => simpa only [hr, Step.value] using h a ha c s hc

theorem points_holding {r : Reading α} (e : Entity) (h : Points line r Q) :
    Points line (holding e r) Q := by
  intro c s hc
  have h₁ := h c s hc
  rw [run_holding]
  rcases hr : r.run c s with ⟨⟨a | a, c'⟩, s'⟩ <;> · rw [hr] at h₁; exact h₁

theorem points_undoing {r : Reading α} (k : Handle) (h : Points line r Q) :
    Points line (undoing k r) Q := by
  intro c s hc
  have h₁ := h c s hc
  rw [run_undoing]
  rcases hr : r.run c s with ⟨⟨a | a, c'⟩, s'⟩ <;> · rw [hr] at h₁; exact h₁

/-! ## Reading tokens -/

theorem points_cursor : Points line cursor (Cursor.On line) :=
  fun c _ hc => ⟨hc, .refl c⟩

theorem points_session : Points line session fun _ => True :=
  fun c _ _ => ⟨trivial, .refl c⟩

theorem points_change (f : Session → Session) : Points line (change f) fun _ => True :=
  fun c _ _ => ⟨trivial, .refl c⟩

theorem points_advance : Points line advance fun _ => True :=
  fun c _ _ => ⟨trivial, c.leads_advance⟩

theorem points_skipValid : Points line skipValid fun _ => True :=
  fun _ _ _ => ⟨trivial, ⟨rfl, List.dropWhile_suffix _⟩⟩

theorem points_lift {value : Except Failure α} (h : ∀ f, value = .error f → f.Points line) :
    Points line (lift value) fun _ => True := by
  cases value with
  | ok a => exact points_pure trivial
  | error f => exact points_throw (h f rfl)

theorem points_current : Points line current (Token.In line) := by
  unfold current
  exact points_bind points_cursor fun c hc => points_pure hc.current

theorem points_here : Points line here (Span.In line) := by
  unfold here
  exact points_bind points_current fun t ht => points_pure ht.span

theorem points_hasMore : Points line hasMore fun _ => True := by
  unfold hasMore
  exact points_bind points_cursor fun c _ => points_pure trivial

theorem points_consume : Points line consume (Token.In line) := by
  unfold consume
  refine points_bind points_current fun t ht => ?_
  exact points_bind points_advance fun _ _ => points_pure ht

/-- Reading a token of a kind either moves behind it or leaves the cursor where it is. -/
theorem run_accept (kind : TokenKind) (c : Cursor) (s : Session) :
    (accept kind).run c s =
      if c.current.kind = kind then ((.ok (some c.current), c.advance), s)
      else ((.ok none, c), s) := by
  unfold accept
  rw [run_cursor_bind]
  unfold Cursor.accept
  by_cases h : c.current.kind = kind
  · rw [if_pos h, if_pos h]
    rfl
  · rw [if_neg h, if_neg h]
    rfl

theorem points_accept (kind : TokenKind) :
    Points line (accept kind) fun t? => ∀ t ∈ t?, t.In line := by
  intro c s hc
  rw [run_accept]
  by_cases h : c.current.kind = kind
  · rw [if_pos h]
    exact ⟨fun t ht => Option.mem_some.1 ht ▸ hc.current, c.leads_advance⟩
  · rw [if_neg h]
    exact ⟨fun t ht => absurd ht (by simp), .refl c⟩

theorem points_skip (kind : TokenKind) : Points line (skip kind) fun _ => True := by
  unfold skip
  exact points_bind (points_accept kind) fun _ _ => points_pure trivial

/-- A token that is required is read, or the failure is at the cursor. -/
theorem run_require {kind : TokenKind} (fault : Fault) (hk : kind ≠ .invalid) (c : Cursor)
    (s : Session) :
    (require kind fault).run c s =
      if c.current.kind = kind then ((.ok c.current, c.advance), s)
      else ((.error (fault.atSpan c.current.span), c), s) := by
  by_cases h : c.current.kind = kind
  · have hr : c.require kind fault = (.ok c.current, c.advance) := by
      simp [Cursor.require, Cursor.expect, Cursor.accept, h, hk]
    rw [if_pos h]
    unfold require
    rw [run_cursor_bind, hr]
    rfl
  · have hr : c.require kind fault = (.error (fault.atSpan c.current.span), c) := by
      simp [Cursor.require, Cursor.expect, Cursor.accept, h, Token.asInvalid]
    rw [if_neg h]
    unfold require
    rw [run_cursor_bind, hr]
    rfl

theorem points_require {kind : TokenKind} (fault : Fault) (hk : kind ≠ .invalid) :
    Points line (require kind fault) (Token.In line) := by
  intro c s hc
  rw [run_require fault hk]
  by_cases h : c.current.kind = kind
  · rw [if_pos h]
    exact ⟨hc.current, c.leads_advance⟩
  · rw [if_neg h]
    exact Fault.points_atSpan _ hc.current.span

end Reading

end DriverBench
