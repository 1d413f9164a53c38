import DriverBench.Script
/-!
# What an action does to a state

Two judgements about actions that may fail. `Within` says that whatever an action is given, the
state before it and the state after it stand in a relation; the relation is a frame, one that holds
of a state and itself and that can be followed step by step. `Ensures` says more: from the states of
one kind it leads to a value and a state of a second kind, or it fails in a state of a third kind.

Both go through sequences, branches and loops. The rules are stated once here, for what acts on the
session or on a driver and for readings of a line, and every later statement about a call or a
command is assembled from them.
-/

namespace DriverBench

open Device Simulator

/-- A relation between the states before and after: doing nothing is in it, and so is doing one
thing after another. -/
class Frame {S : Type} (R : S → S → Prop) : Prop where
  refl : ∀ s, R s s
  trans : ∀ {a b c}, R a b → R b c → R a c

/-- Nothing changes at all. -/
instance {S : Type} : Frame (fun s s' : S => s' = s) where
  refl _ := rfl
  trans h h' := h'.trans h

/-! ## Actions -/

namespace Action

section Rules

variable {ε S α β : Type} {R : S → S → Prop}

theorem run_bind (a : ExceptT ε (StateM S) α) (f : α → ExceptT ε (StateM S) β) (s : S) :
    (a >>= f).run.run s = match a.run.run s with
      | (.ok x, s') => (f x).run.run s'
      | (.error e, s') => (.error e, s') := by
  change (let p := a.run.run s; (ExceptT.bindCont f p.1).run p.2) = _
  rcases a.run.run s with ⟨x | x, s'⟩ <;> rfl

theorem run_tryCatch (a : ExceptT ε (StateM S) α) (handle : ε → ExceptT ε (StateM S) α) (s : S) :
    (tryCatch a handle).run.run s = match a.run.run s with
      | (.ok x, s') => (.ok x, s')
      | (.error e, s') => (handle e).run.run s' := by
  unfold ExceptT.run StateT.run
  simp only [tryCatch, tryCatchThe, MonadExceptOf.tryCatch, ExceptT.tryCatch, ExceptT.mk, bind,
    StateT.bind]
  rcases a s with ⟨x | x, s'⟩ <;> rfl

theorem run_atSpan (a : Action α) (span : Span) (s : Session) :
    (a.atSpan span).run.run s = match a.run.run s with
      | (.ok x, s') => (.ok x, s')
      | (.error f, s') => (.error (f.atSpan span), s') := by
  unfold atSpan
  rw [run_tryCatch]
  rcases a.run.run s with ⟨x | x, s'⟩ <;> rfl

/-- What follows a look at the state starts from the state that was seen. -/
theorem run_get_bind (f : S → ExceptT ε (StateM S) α) (s : S) :
    ((get : ExceptT ε (StateM S) S) >>= f).run.run s = (f s).run.run s :=
  rfl

/-- What follows a change of the state goes on from the state and the value that it gives. -/
theorem run_modifyGet_bind (g : S → α × S) (f : α → ExceptT ε (StateM S) β) (s : S) :
    ((modifyGet g : ExceptT ε (StateM S) α) >>= f).run.run s = (f (g s).1).run.run (g s).2 :=
  rfl

/-- The state before an action and the state after it are related. -/
def Within (R : S → S → Prop) (a : ExceptT ε (StateM S) α) : Prop :=
  ∀ s, R s (a.run.run s).2

/-- From states of the first kind an action leads to a value and a state of the second kind, or
fails in a state of the third kind. -/
def Ensures (P : S → Prop) (a : ExceptT ε (StateM S) α) (Q : α → S → Prop) (E : S → Prop) : Prop :=
  ∀ s, P s → match a.run.run s with
    | (.ok x, s') => Q x s'
    | (.error _, s') => E s'

section Within

variable [Frame R]

@[simp] theorem within_pure (x : α) : Within R (pure x : ExceptT ε (StateM S) α) :=
  fun s => Frame.refl s

@[simp] theorem within_throw (e : ε) : Within R (throw e : ExceptT ε (StateM S) α) :=
  fun s => Frame.refl s

@[simp] theorem within_get : Within R (get : ExceptT ε (StateM S) S) := fun s => Frame.refl s

@[simp] theorem within_bind {a : ExceptT ε (StateM S) α} {f : α → ExceptT ε (StateM S) β}
    (h : Within R a) (hf : ∀ x, Within R (f x)) : Within R (a >>= f) := by
  intro s
  have h₁ := h s
  rw [run_bind]
  rcases hr : a.run.run s with ⟨x | x, s'⟩
  · rw [hr] at h₁
    exact h₁
  · rw [hr] at h₁
    exact Frame.trans h₁ (hf x s')

theorem within_tryCatch {a : ExceptT ε (StateM S) α} {handle : ε → ExceptT ε (StateM S) α}
    (h : Within R a) (hh : ∀ e, Within R (handle e)) : Within R (tryCatch a handle) := by
  intro s
  have h₁ := h s
  rw [run_tryCatch]
  rcases hr : a.run.run s with ⟨x | x, s'⟩
  · rw [hr] at h₁
    exact Frame.trans h₁ (hh x s')
  · rw [hr] at h₁
    exact h₁

@[simp] theorem within_map {a : ExceptT ε (StateM S) α} {f : α → β} (h : Within R a) :
    Within R (f <$> a) := by
  rw [← bind_pure_comp]
  exact within_bind h fun _ => within_pure _

omit [Frame R] in
@[simp] theorem within_ite {p : Prop} [Decidable p] {a b : ExceptT ε (StateM S) α}
    (ha : Within R a) (hb : Within R b) : Within R (if p then a else b) := by
  split <;> assumption

/-- An action with something in front that is done in one case only. -/
theorem within_when {p : Prop} [Decidable p] {a : ExceptT ε (StateM S) PUnit}
    {b : ExceptT ε (StateM S) α} (ha : Within R a) (hb : Within R b) :
    Within R (if p then a >>= fun _ => b else b) :=
  within_ite (within_bind ha fun _ => hb) hb

end Within

/-- A wider relation holds as well. -/
theorem Within.mono {R' : S → S → Prop} {a : ExceptT ε (StateM S) α} (h : Within R a)
    (hR : ∀ s s', R s s' → R' s s') : Within R' a :=
  fun s => hR s _ (h s)

variable {P : S → Prop} {Q : α → S → Prop} {E : S → Prop} {a : ExceptT ε (StateM S) α}

theorem Ensures.bind {f : α → ExceptT ε (StateM S) β} {Q' : β → S → Prop}
    (h : Ensures P a Q E) (hf : ∀ x, Ensures (Q x) (f x) Q' E) : Ensures P (a >>= f) Q' E := by
  intro s hs
  have h₁ := h s hs
  rw [run_bind]
  rcases hr : a.run.run s with ⟨x | x, s'⟩
  · rw [hr] at h₁
    exact h₁
  · rw [hr] at h₁
    exact hf x s' h₁

theorem Ensures.tryCatch {handle : ε → ExceptT ε (StateM S) α} {E' : S → Prop}
    (h : Ensures P a Q E') (hh : ∀ e, Ensures E' (handle e) Q E) :
    Ensures P (tryCatch a handle) Q E := by
  intro s hs
  have h₁ := h s hs
  rw [run_tryCatch]
  rcases hr : a.run.run s with ⟨x | x, s'⟩
  · rw [hr] at h₁
    exact hh x s' h₁
  · rw [hr] at h₁
    exact h₁

theorem Ensures.mono {P' : S → Prop} {Q' : α → S → Prop} {E' : S → Prop} (h : Ensures P a Q E)
    (hP : ∀ s, P' s → P s) (hQ : ∀ x s, Q x s → Q' x s) (hE : ∀ s, E s → E' s) :
    Ensures P' a Q' E' := by
  intro s hs
  have h₁ := h s (hP s hs)
  rcases hr : a.run.run s with ⟨x | x, s'⟩
  · rw [hr] at h₁
    exact hE s' h₁
  · rw [hr] at h₁
    exact hQ x s' h₁

theorem Ensures.pure {x : α} (h : ∀ s, P s → Q x s) :
    Ensures P (Pure.pure x : ExceptT ε (StateM S) α) Q E :=
  fun s hs => h s hs

theorem Ensures.throw {e : ε} (h : ∀ s, P s → E s) :
    Ensures P (MonadExcept.throw e : ExceptT ε (StateM S) α) Q E :=
  fun s hs => h s hs

/-- An action keeps what the relation that it stays within keeps. -/
theorem Within.ensures (h : Within R a) (hP : ∀ s s', R s s' → P s → P s') :
    Ensures P a (fun _ => P) P := by
  intro s hs
  have h₁ := hP s _ (h s) hs
  rcases hr : a.run.run s with ⟨x | x, s'⟩ <;> · rw [hr] at h₁; exact h₁

end Rules

variable {α : Type} {R : Session → Session → Prop} {P E : Session → Prop}
  {Q : α → Session → Prop}

@[simp] theorem within_raise [Frame R] (f : Fault) : Within R (raise f : Action α) :=
  fun s => Frame.refl s

@[simp] theorem within_atSpan {a : Action α} (h : Within R a) (span : Span) :
    Within R (a.atSpan span) := by
  intro s
  have h₁ := h s
  rw [run_atSpan]
  rcases hr : a.run.run s with ⟨x | x, s'⟩ <;> · rw [hr] at h₁; exact h₁

theorem Ensures.raise {f : Fault} (h : ∀ s, P s → E s) :
    Ensures P (Action.raise f : Action α) Q E :=
  fun s hs => h s hs

theorem Ensures.atSpan {a : Action α} (h : Ensures P a Q E) (span : Span) :
    Ensures P (a.atSpan span) Q E := by
  intro s hs
  have h₁ := h s hs
  rw [run_atSpan]
  rcases hr : a.run.run s with ⟨x | x, s'⟩ <;> · rw [hr] at h₁; exact h₁

end Action

/-! ## Readings -/

namespace Reading

variable {α β σ : Type} {R : Session → Session → Prop}

theorem run_bind (r : Reading α) (f : α → Reading β) (c : Cursor) (s : Session) :
    (r >>= f).run c s = match r.run c s with
      | ((.ok a, c'), s') => (f a).run c' s'
      | ((.error e, c'), s') => ((.error e, c'), s') := by
  change (let p := r.run c s; (ExceptT.bindCont f p.1.1) p.1.2 p.2) = _
  rcases r.run c s with ⟨⟨a | a, c'⟩, s'⟩ <;> rfl

/-- The session before a reading and the session after it are related. -/
def Within (R : Session → Session → Prop) (r : Reading α) : Prop :=
  ∀ c s, R s (r.run c s).2

/-- From sessions of the first kind a reading leads to a value and a session of the second kind,
or fails in a session of the third kind. -/
def Ensures (P : Session → Prop) (r : Reading α) (Q : α → Session → Prop) (E : Session → Prop) :
    Prop :=
  ∀ c s, P s → match r.run c s with
    | ((.ok a, _), s') => Q a s'
    | ((.error _, _), s') => E s'

section Within

variable [Frame R]

@[simp] theorem within_pure (a : α) : Within R (pure a) := fun _ s => Frame.refl s

@[simp] theorem within_throw (f : Failure) : Within R (throw f : Reading α) :=
  fun _ s => Frame.refl s

@[simp] theorem within_raise (f : Fault) (span : Span) : Within R (raise f span : Reading α) :=
  fun _ s => Frame.refl s

@[simp] theorem within_bind {r : Reading α} {f : α → Reading β} (h : Within R r)
    (hf : ∀ a, Within R (f a)) : Within R (r >>= f) := by
  intro c s
  have h₁ := h c s
  rw [run_bind]
  rcases hr : r.run c s with ⟨⟨a | a, c'⟩, s'⟩
  · rw [hr] at h₁
    exact h₁
  · rw [hr] at h₁
    exact Frame.trans h₁ (hf a c' s')

@[simp] theorem within_map {r : Reading α} {f : α → β} (h : Within R r) :
    Within R (f <$> r) := by
  rw [← bind_pure_comp]
  exact within_bind h fun _ => within_pure _

omit [Frame R] in
@[simp] theorem within_ite {p : Prop} [Decidable p] {a b : Reading α} (ha : Within R a)
    (hb : Within R b) : Within R (if p then a else b) := by
  split <;> assumption

/-- A reading with something in front that is done in one case only. -/
theorem within_when {p : Prop} [Decidable p] {a : Reading PUnit} {r : Reading α}
    (ha : Within R a) (hr : Within R r) : Within R (if p then a >>= fun _ => r else r) :=
  within_ite (within_bind ha fun _ => hr) hr

omit [Frame R] in
@[simp] theorem within_liftM {a : Action α} (h : Action.Within R a) : Within R (liftM a) :=
  fun _ s => h s

/-- A loop stays within a frame that each of its steps stays within. -/
@[simp] theorem within_loop {step : σ → Reading (Step σ)} (h : ∀ a, Within R (step a)) (a : σ) :
    Within R (loop step a) := by
  intro c s
  change R s (loopFrom step a c s).2
  fun_induction loopFrom step a c s with
  | case1 a c s f c' s' hr => simpa only [hr] using h a c s
  | case2 a c s b c' s' hr => simpa only [hr] using h a c s
  | case3 a c s b c' s' hr hlt ih =>
    have h₁ := h a c s
    rw [hr] at h₁
    exact Frame.trans h₁ ih
  | case4 a c s b c' s' hr hlt => simpa only [hr] using h a c s

end Within

/-- A wider relation holds as well. -/
theorem Within.mono {S : Session → Session → Prop} {r : Reading α} (h : Within R r)
    (hRS : ∀ s s', R s s' → S s s') : Within S r :=
  fun c s => hRS s _ (h c s)

variable {P : Session → Prop} {Q : α → Session → Prop} {E : Session → Prop}

theorem Ensures.bind {r : Reading α} {f : α → Reading β} {Q' : β → Session → Prop}
    (h : Ensures P r Q E) (hf : ∀ a, Ensures (Q a) (f a) Q' E) : Ensures P (r >>= f) Q' E := by
  intro c s hs
  have h₁ := h c s hs
  rw [run_bind]
  rcases hr : r.run c s with ⟨⟨a | a, c'⟩, s'⟩
  · rw [hr] at h₁
    exact h₁
  · rw [hr] at h₁
    exact hf a c' s' h₁

theorem Ensures.mono {P' : Session → Prop} {Q' : α → Session → Prop} {E' : Session → Prop}
    {r : Reading α} (h : Ensures P r Q E) (hP : ∀ s, P' s → P s) (hQ : ∀ a s, Q a s → Q' a s)
    (hE : ∀ s, E s → E' s) : Ensures P' r Q' E' := by
  intro c s hs
  have h₁ := h c s (hP s hs)
  rcases hr : r.run c s with ⟨⟨a | a, c'⟩, s'⟩
  · rw [hr] at h₁
    exact hE s' h₁
  · rw [hr] at h₁
    exact hQ a s' h₁

theorem Ensures.pure {a : α} (h : ∀ s, P s → Q a s) : Ensures P (pure a) Q E :=
  fun _ s hs => h s hs

theorem Ensures.throw {f : Failure} (h : ∀ s, P s → E s) : Ensures P (throw f) Q E :=
  fun _ s hs => h s hs

theorem Ensures.raise {f : Fault} {span : Span} (h : ∀ s, P s → E s) :
    Ensures P (raise f span) Q E :=
  fun _ s hs => h s hs

theorem Ensures.change {f : Session → Session} {Q : Unit → Session → Prop}
    (h : ∀ s, P s → Q () (f s)) : Ensures P (change f) Q E :=
  fun _ s hs => h s hs

/-- What follows a look at the session starts from the session that was seen. -/
theorem Ensures.session_bind {f : Session → Reading α}
    (h : ∀ s, P s → Ensures (fun s' => s' = s) (f s) Q E) : Ensures P (session >>= f) Q E :=
  fun c s hs => h s hs c s rfl

/-- The session gives way to another one. -/
theorem Ensures.replace {I : Session → Prop} {s' : Session} {r : Reading α} (h : I s')
    (hr : Ensures I r Q E) : Ensures P (Reading.change (fun _ => s') >>= fun _ => r) Q E :=
  Ensures.bind (Q := fun _ => I) (Ensures.change fun _ _ => h) fun _ => hr

theorem Ensures.ite {p : Prop} [Decidable p] {a b : Reading α} (ha : p → Ensures P a Q E)
    (hb : ¬ p → Ensures P b Q E) : Ensures P (if p then a else b) Q E := by
  by_cases hp : p
  · rw [if_pos hp]
    exact ha hp
  · rw [if_neg hp]
    exact hb hp

/-- Behind a check the condition that it refuses does not hold. -/
theorem Ensures.guard {p : Prop} [Decidable p] {f : Fault} {span : Span} {r : Reading α}
    (hE : ∀ s, P s → E s) (hr : ¬ p → Ensures P r Q E) :
    Ensures P (if p then (Reading.raise f span : Reading PUnit) >>= fun _ => r else r) Q E :=
  Ensures.ite (fun _ => Ensures.bind (Q := fun _ _ => False) (fun _ s hs => hE s hs)
    fun _ _ _ h => h.elim) hr

theorem run_liftM (a : Action α) (c : Cursor) (s : Session) :
    (liftM a : Reading α).run c s = (((a.run.run s).1, c), (a.run.run s).2) :=
  rfl

/-- What follows a look at the cursor starts from the cursor that was seen. -/
theorem run_cursor_bind (f : Cursor → Reading α) (c : Cursor) (s : Session) :
    (cursor >>= f).run c s = (f c).run c s :=
  rfl

theorem Ensures.liftM {a : Action α} (h : Action.Ensures P a Q E) : Ensures P (liftM a) Q E := by
  intro c s hs
  have h₁ := h s hs
  rw [run_liftM]
  rcases hr : a.run.run s with ⟨x | x, s'⟩ <;> · rw [hr] at h₁; exact h₁

/-- To follow a reading it is enough to follow it from one session at a time. -/
theorem Ensures.of_each {r : Reading α}
    (h : ∀ s₀, P s₀ → Ensures (fun s => s = s₀) r Q E) : Ensures P r Q E :=
  fun c s hs => h s hs c s rfl

/-- A reading keeps what the relation that it stays within keeps. -/
theorem Within.ensures {r : Reading α} (h : Within R r) (hP : ∀ s s', R s s' → P s → P s') :
    Ensures P r (fun _ => P) P := by
  intro c s hs
  have h₁ := hP s _ (h c s) hs
  rcases hr : r.run c s with ⟨⟨a | a, c'⟩, s'⟩ <;> · rw [hr] at h₁; exact h₁

/-- Where every reading of one kind of session stays within a relation. -/
theorem within_of_ensures {r : Reading α}
    (h : ∀ s₀, Ensures (fun s => s = s₀) r (fun _ s => R s₀ s) (R s₀)) : Within R r := by
  intro c s
  have h₁ := h s c s rfl
  rcases hr : r.run c s with ⟨⟨a | a, c'⟩, s'⟩ <;> · rw [hr] at h₁; exact h₁

theorem Ensures.any {r : Reading α} : Ensures P r (fun _ _ => True) (fun _ => True) := by
  intro c s _
  rcases r.run c s with ⟨⟨a | a, c'⟩, s'⟩ <;> trivial

theorem Ensures.and {r : Reading α} {P' : Session → Prop} {Q' : α → Session → Prop}
    {E' : Session → Prop} (h : Ensures P r Q E) (h' : Ensures P' r Q' E') :
    Ensures (fun s => P s ∧ P' s) r (fun a s => Q a s ∧ Q' a s) (fun s => E s ∧ E' s) := by
  intro c s hs
  have h₁ := h c s hs.1
  have h₂ := h' c s hs.2
  rcases hr : r.run c s with ⟨⟨a | a, c'⟩, s'⟩ <;> · rw [hr] at h₁ h₂; exact ⟨h₁, h₂⟩

theorem run_holding (e : Entity) (r : Reading α) (c : Cursor) (s : Session) :
    (holding e r).run c s = ((r.run c s).1, (r.run c s).2.letGo [e]) :=
  rfl

theorem run_undoing (k : Handle) (r : Reading α) (c : Cursor) (s : Session) :
    (undoing k r).run c s = match r.run c s with
      | ((.ok a, c'), s') => ((.ok a, c'), s')
      | ((.error f, c'), s') => ((.error f, c'), s'.letGoHandle k) :=
  rfl

/-- An object that was held is let go in either case. -/
theorem Ensures.holding {e : Entity} {r : Reading α} (h : Ensures P r (fun a s => Q a (s.letGo [e]))
    (fun s => E (s.letGo [e]))) : Ensures P (holding e r) Q E := by
  intro c s hs
  have h₁ := h c s hs
  rw [run_holding]
  rcases hr : r.run c s with ⟨⟨a | a, c'⟩, s'⟩ <;> · rw [hr] at h₁; exact h₁

/-- What was made is let go if the rest fails. -/
theorem Ensures.undoing {k : Handle} {r : Reading α} (h : Ensures P r Q
    (fun s => E (s.letGoHandle k))) : Ensures P (undoing k r) Q E := by
  intro c s hs
  have h₁ := h c s hs
  rw [run_undoing]
  rcases hr : r.run c s with ⟨⟨a | a, c'⟩, s'⟩ <;> · rw [hr] at h₁; exact h₁

/-- The value with which a loop goes on or is done. -/
def Step.value : Step σ → σ
  | .next a => a
  | .done a => a

/-- A loop keeps an invariant that each of its steps keeps. -/
theorem Ensures.loop {step : σ → Reading (Step σ)} {I : σ → Session → Prop}
    (h : ∀ a, Ensures (I a) (step a) (fun b => I b.value) E) (a : σ) :
    Ensures (I a) (loop step a) I E := by
  intro c s hs
  change match loopFrom step a c s with
    | ((.ok a, _), s') => I a s'
    | ((.error _, _), s') => E s'
  fun_induction loopFrom step a c s with
  | case1 a c s f c' s' hr => simpa only [hr] using h a c s hs
  | case2 a c s b c' s' hr => simpa only [hr, Step.value] using h a c s hs
  | case3 a c s b c' s' hr hlt ih => exact ih (by simpa only [hr, Step.value] using h a c s hs)
  | case4 a c s b c' s' hr hlt => simpa only [hr, Step.value] using h a c s hs

end Reading

end DriverBench
