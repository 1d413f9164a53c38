import DriverBench.Proofs.Reading.Run
/-!
# Two runs side by side

Two states may differ in something that an action does not look at. `Parallel` follows two actions
from two such states: they give the same answer and lead to states of which the same can be said
again. One action beside itself is even (`Even`), or even from the states of one kind (`EvenFrom`).
Of which kind the states are is a matter of either run alone; it comes from `Ensures`.
-/

namespace DriverBench

open Device Simulator

/-! ## Actions -/

namespace Action

variable {ε S α β : Type} {R : S → S → Prop} {P : S → Prop}

/-- From related states of one kind two actions give the same answer, and lead to related states. -/
def Parallel (R : S → S → Prop) (P : S → Prop) (a a' : ExceptT ε (StateM S) α) : Prop :=
  ∀ s s', R s s' → P s → P s' →
    (a'.run.run s').1 = (a.run.run s).1 ∧ R (a.run.run s).2 (a'.run.run s').2

/-- Related states of one kind make no difference to the answer, and lead to related states. -/
def EvenFrom (R : S → S → Prop) (P : S → Prop) (a : ExceptT ε (StateM S) α) : Prop :=
  Parallel R P a a

/-- Related states make no difference to the answer, and lead to related states. -/
def Even (R : S → S → Prop) (a : ExceptT ε (StateM S) α) : Prop :=
  EvenFrom R (fun _ => True) a

section Rules

variable {a a' : ExceptT ε (StateM S) α} {f f' : α → ExceptT ε (StateM S) β}

theorem Parallel.mono {P' : S → Prop} (h : Parallel R P a a') (hP : ∀ s, P' s → P s) :
    Parallel R P' a a' :=
  fun s s' hs hp hp' => h s s' hs (hP s hp) (hP s' hp')

theorem EvenFrom.mono {P' : S → Prop} (h : EvenFrom R P a) (hP : ∀ s, P' s → P s) :
    EvenFrom R P' a :=
  Parallel.mono h hP

theorem Even.from (h : Even R a) : EvenFrom R P a :=
  EvenFrom.mono h fun _ _ => trivial

/-- Where the one action answers, the other one answers the same. -/
theorem Parallel.run_eq (h : Parallel R P a a') {s s' t : S} {x : Except ε α} (hs : R s s')
    (hp : P s) (hp' : P s') (hr : a.run.run s = (x, t)) :
    ∃ t', a'.run.run s' = (x, t') ∧ R t t' := by
  obtain ⟨hanswer, hR⟩ := h s s' hs hp hp'
  rw [hr] at hanswer hR
  exact ⟨(a'.run.run s').2, Prod.ext hanswer rfl, hR⟩

@[simp] theorem even_pure (x : α) : Even R (pure x : ExceptT ε (StateM S) α) :=
  fun _ _ hs _ _ => ⟨rfl, hs⟩

@[simp] theorem even_throw (e : ε) : Even R (throw e : ExceptT ε (StateM S) α) :=
  fun _ _ hs _ _ => ⟨rfl, hs⟩

theorem Parallel.bind {Q : α → S → Prop} {E : S → Prop} (h : Parallel R P a a')
    (hu : Ensures P a Q E) (hu' : Ensures P a' Q E)
    (hf : ∀ x, Parallel R (Q x) (f x) (f' x)) : Parallel R P (a >>= f) (a' >>= f') := by
  intro s s' hs hp hp'
  have h₁ := hu s hp
  have h₂ := hu' s' hp'
  rw [run_bind, run_bind]
  rcases hr : a.run.run s with ⟨e | x, t⟩ <;> obtain ⟨t', hr', hR⟩ := h.run_eq hs hp hp' hr <;>
    rw [hr'] at h₂ ⊢
  · exact ⟨rfl, hR⟩
  · rw [hr] at h₁
    exact hf x t t' hR h₁ h₂

theorem EvenFrom.bind {Q : α → S → Prop} {E : S → Prop} (h : EvenFrom R P a)
    (hu : Ensures P a Q E) (hf : ∀ x, EvenFrom R (Q x) (f x)) : EvenFrom R P (a >>= f) :=
  Parallel.bind h hu hu hf

/-- Behind an action from states of one kind nothing more need be known of the states. -/
theorem EvenFrom.bind_even (h : EvenFrom R P a) (hf : ∀ x, Even R (f x)) :
    EvenFrom R P (a >>= f) := by
  have hany : Ensures P a (fun _ _ => True) (fun _ => True) := by
    intro s _
    rcases a.run.run s with ⟨e | x, t⟩ <;> trivial
  exact EvenFrom.bind h hany hf

@[simp] theorem even_bind (h : Even R a) (hf : ∀ x, Even R (f x)) : Even R (a >>= f) :=
  EvenFrom.bind_even h hf

@[simp] theorem even_map {g : α → β} (h : Even R a) : Even R (g <$> a) := by
  rw [← bind_pure_comp]
  exact even_bind h fun _ => even_pure _

@[simp] theorem even_ite {p : Prop} [Decidable p] (ha : Even R a) (hb : Even R a') :
    Even R (if p then a else a') := by
  split <;> assumption

/-- An action with something in front that is done in one case only. -/
theorem even_when {p : Prop} [Decidable p] {b : ExceptT ε (StateM S) PUnit} (hb : Even R b)
    (ha : Even R a) : Even R (if p then b >>= fun _ => a else a) :=
  even_ite (even_bind hb fun _ => ha) ha

/-- What follows a look at the state goes on from the state that was seen. -/
theorem Parallel.get_bind {g g' : S → ExceptT ε (StateM S) α}
    (h : ∀ s s', R s s' → P s → P s' → Parallel R P (g s) (g' s')) :
    Parallel R P (get >>= g) (get >>= g') :=
  fun s s' hs hp hp' => h s s' hs hp hp' s s' hs hp hp'

/-- A look at what is the same in related states. -/
theorem even_get_bind {g : S → ExceptT ε (StateM S) α} (heq : ∀ s s', R s s' → g s' = g s)
    (hg : ∀ s, Even R (g s)) : Even R (get >>= g) := by
  refine Parallel.get_bind fun s s' hs _ _ => ?_
  rw [heq s s' hs]
  exact hg s

theorem even_modify {g : S → S} (h : ∀ s s', R s s' → R (g s) (g s')) :
    Even R (modify g : ExceptT ε (StateM S) PUnit) :=
  fun s s' hs _ _ => ⟨rfl, h s s' hs⟩

theorem EvenFrom.tryCatch {handle : ε → ExceptT ε (StateM S) α} (h : EvenFrom R P a)
    (hh : ∀ e, Even R (handle e)) : EvenFrom R P (tryCatch a handle) := by
  intro s s' hs hp hp'
  rw [run_tryCatch, run_tryCatch]
  rcases hr : a.run.run s with ⟨e | x, t⟩ <;>
    obtain ⟨t', hr', hR⟩ := Parallel.run_eq h hs hp hp' hr <;> rw [hr']
  · exact hh e t t' hR trivial trivial
  · exact ⟨rfl, hR⟩

end Rules

variable {R : Session → Session → Prop} {P : Session → Prop} {a : Action α}

@[simp] theorem even_raise (f : Fault) : Even R (raise f : Action α) :=
  even_throw _

theorem EvenFrom.atSpan (h : EvenFrom R P a) (span : Span) : EvenFrom R P (a.atSpan span) :=
  EvenFrom.tryCatch h fun _ => even_throw _

@[simp] theorem even_atSpan (h : Even R a) (span : Span) : Even R (a.atSpan span) :=
  EvenFrom.atSpan h span

end Action

/-! ## Readings -/

namespace Reading

variable {α β σ : Type} {R : Session → Session → Prop} {P : Session → Prop}

/-- From related sessions of one kind two readings give the same answer and leave the cursor in the
same place, and they lead to related sessions. -/
def Parallel (R : Session → Session → Prop) (P : Session → Prop) (r r' : Reading α) : Prop :=
  ∀ c s s', R s s' → P s → P s' → (r'.run c s').1 = (r.run c s).1 ∧ R (r.run c s).2 (r'.run c s').2

/-- Related sessions of one kind make no difference to what is read, and lead to related sessions.
-/
def EvenFrom (R : Session → Session → Prop) (P : Session → Prop) (r : Reading α) : Prop :=
  Parallel R P r r

/-- Related sessions make no difference to what is read, and lead to related sessions. -/
def Even (R : Session → Session → Prop) (r : Reading α) : Prop :=
  EvenFrom R (fun _ => True) r

variable {r r' : Reading α} {f f' : α → Reading β}

theorem Parallel.mono {P' : Session → Prop} (h : Parallel R P r r') (hP : ∀ s, P' s → P s) :
    Parallel R P' r r' :=
  fun c s s' hs hp hp' => h c s s' hs (hP s hp) (hP s' hp')

theorem Parallel.symm (h : Parallel R P r r') (hR : ∀ s s', R s s' → R s' s) :
    Parallel R P r' r := fun c s s' hs hp hp' =>
  have hc := h c s' s (hR s s' hs) hp' hp
  ⟨hc.1.symm, hR _ _ hc.2⟩

theorem EvenFrom.mono {P' : Session → Prop} (h : EvenFrom R P r) (hP : ∀ s, P' s → P s) :
    EvenFrom R P' r :=
  Parallel.mono h hP

theorem Even.from (h : Even R r) : EvenFrom R P r :=
  EvenFrom.mono h fun _ _ => trivial

/-- Where the one reading answers, the other one answers the same. -/
theorem Parallel.run_eq (h : Parallel R P r r') {c : Cursor} {s s' t : Session}
    {x : Except Failure α × Cursor} (hs : R s s') (hp : P s) (hp' : P s')
    (hr : r.run c s = (x, t)) : ∃ t', r'.run c s' = (x, t') ∧ R t t' := by
  obtain ⟨hanswer, hR⟩ := h c s s' hs hp hp'
  rw [hr] at hanswer hR
  exact ⟨(r'.run c s').2, Prod.ext hanswer rfl, hR⟩

@[simp] theorem even_pure (a : α) : Even R (pure a) := fun _ _ _ hs _ _ => ⟨rfl, hs⟩

@[simp] theorem even_throw (e : Failure) : Even R (throw e : Reading α) :=
  fun _ _ _ hs _ _ => ⟨rfl, hs⟩

@[simp] theorem even_raise (e : Fault) (span : Span) : Even R (raise e span : Reading α) :=
  even_throw _

theorem Parallel.bind {Q : α → Session → Prop} {E : Session → Prop} (h : Parallel R P r r')
    (hu : Ensures P r Q E) (hu' : Ensures P r' Q E)
    (hf : ∀ a, Parallel R (Q a) (f a) (f' a)) : Parallel R P (r >>= f) (r' >>= f') := by
  intro c s s' hs hp hp'
  have h₁ := hu c s hp
  have h₂ := hu' c s' hp'
  rw [run_bind, run_bind]
  rcases hr : r.run c s with ⟨⟨e | a, d⟩, t⟩ <;> obtain ⟨t', hr', hR⟩ := h.run_eq hs hp hp' hr <;>
    rw [hr'] at h₂ ⊢
  · exact ⟨rfl, hR⟩
  · rw [hr] at h₁
    exact hf a d t t' hR h₁ h₂

theorem EvenFrom.bind {Q : α → Session → Prop} {E : Session → Prop} (h : EvenFrom R P r)
    (hu : Ensures P r Q E) (hf : ∀ a, EvenFrom R (Q a) (f a)) : EvenFrom R P (r >>= f) :=
  Parallel.bind h hu hu hf

/-- Behind a reading from sessions of one kind nothing more need be known of the sessions. -/
theorem EvenFrom.bind_even (h : EvenFrom R P r) (hf : ∀ a, Even R (f a)) :
    EvenFrom R P (r >>= f) :=
  EvenFrom.bind h Ensures.any hf

@[simp] theorem even_bind (h : Even R r) (hf : ∀ a, Even R (f a)) : Even R (r >>= f) :=
  EvenFrom.bind_even h hf

@[simp] theorem even_map {g : α → β} (h : Even R r) : Even R (g <$> r) := by
  rw [← bind_pure_comp]
  exact even_bind h fun _ => even_pure _

theorem EvenFrom.ite {p : Prop} [Decidable p] (h : p → EvenFrom R P r)
    (h' : ¬ p → EvenFrom R P r') : EvenFrom R P (if p then r else r') := by
  by_cases hp : p
  · rw [if_pos hp]
    exact h hp
  · rw [if_neg hp]
    exact h' hp

@[simp] theorem even_ite {p : Prop} [Decidable p] (h : Even R r) (h' : Even R r') :
    Even R (if p then r else r') :=
  EvenFrom.ite (fun _ => h) fun _ => h'

/-- A reading with something in front that is done in one case only. -/
theorem even_when {p : Prop} [Decidable p] {b : Reading PUnit} (hb : Even R b) (h : Even R r) :
    Even R (if p then b >>= fun _ => r else r) :=
  even_ite (even_bind hb fun _ => h) h

theorem Parallel.liftM {a a' : Action α} (h : Action.Parallel R P a a') :
    Parallel R P (liftM a) (liftM a') := by
  intro c s s' hs hp hp'
  obtain ⟨hanswer, hR⟩ := h s s' hs hp hp'
  rw [run_liftM, run_liftM, hanswer]
  exact ⟨rfl, hR⟩

theorem EvenFrom.liftM {a : Action α} (h : Action.EvenFrom R P a) : EvenFrom R P (liftM a) :=
  Parallel.liftM h

@[simp] theorem even_liftM {a : Action α} (h : Action.Even R a) : Even R (liftM a) :=
  EvenFrom.liftM h

theorem even_change {g : Session → Session} (h : ∀ s s', R s s' → R (g s) (g s')) :
    Even R (change g) :=
  fun _ s s' hs _ _ => ⟨rfl, h s s' hs⟩

/-- What follows a look at the session goes on from the session that was seen. -/
theorem Parallel.session_bind {g g' : Session → Reading α}
    (h : ∀ s s', R s s' → P s → P s' → Parallel R P (g s) (g' s')) :
    Parallel R P (session >>= g) (session >>= g') :=
  fun c s s' hs hp hp' => h s s' hs hp hp' c s s' hs hp hp'

/-- A look at what is the same in related sessions. -/
theorem even_session_bind {g : Session → Reading α} (heq : ∀ s s', R s s' → g s' = g s)
    (hg : ∀ s, Even R (g s)) : Even R (session >>= g) := by
  refine Parallel.session_bind fun s s' hs _ _ => ?_
  rw [heq s s' hs]
  exact hg s

/-- The sessions give way to two others. -/
theorem Parallel.replace {t t' : Session} (ht : R t t') (h : Even R r) :
    Parallel R P (change (fun _ => t) >>= fun _ => r) (change (fun _ => t') >>= fun _ => r) :=
  fun c _ _ _ _ _ => h c t t' ht trivial trivial

/-- A loop that goes the same way step by step goes the same way as a whole. -/
theorem EvenFrom.loop {step : σ → Reading (Step σ)} {I : σ → Session → Prop} {E : Session → Prop}
    (h : ∀ a, EvenFrom R (I a) (step a))
    (hu : ∀ a, Ensures (I a) (step a) (fun b => I b.value) E) (a : σ) :
    EvenFrom R (I a) (loop step a) := by
  intro c s s' hs hi hi'
  change (loopFrom step a c s').1 = (loopFrom step a c s).1 ∧
    R (loopFrom step a c s).2 (loopFrom step a c s').2
  -- The cursor is the same on both sides, and so is the place where the loop ends.
  fun_induction loopFrom step a c s generalizing s' with
  | case1 a c s f c₁ s₁ hr =>
    obtain ⟨t', hr', hR⟩ := Parallel.run_eq (h a) hs hi hi' hr
    rw [loopFrom, hr']
    exact ⟨rfl, hR⟩
  | case2 a c s b c₁ s₁ hr =>
    obtain ⟨t', hr', hR⟩ := Parallel.run_eq (h a) hs hi hi' hr
    rw [loopFrom, hr']
    exact ⟨rfl, hR⟩
  | case3 a c s b c₁ s₁ hr hlt ih =>
    obtain ⟨t', hr', hR⟩ := Parallel.run_eq (h a) hs hi hi' hr
    have hb := hu a c s hi
    have hb' := hu a c s' hi'
    rw [hr] at hb
    rw [hr'] at hb'
    rw [loopFrom, hr']
    dsimp only
    rw [if_pos hlt]
    exact ih t' hR hb hb'
  | case4 a c s b c₁ s₁ hr hlt =>
    obtain ⟨t', hr', hR⟩ := Parallel.run_eq (h a) hs hi hi' hr
    rw [loopFrom, hr']
    dsimp only
    rw [if_neg hlt]
    exact ⟨rfl, hR⟩

@[simp] theorem even_loop {step : σ → Reading (Step σ)} (h : ∀ a, Even R (step a)) (a : σ) :
    Even R (loop step a) :=
  EvenFrom.loop (I := fun _ _ => True) h (fun _ => Ensures.any) a

end Reading

end DriverBench
