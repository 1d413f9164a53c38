import DriverBench.Proofs.Reading.Place
import DriverBench.Proofs.Session.Drive
/-!
# Readings that go through

What a line denotes is found by following the readings that go through: each gives a value, and
leaves the cursor and the session for the next one (`Gives`). The rules here say what the small
readings give where the tokens ahead are known.
-/

namespace DriverBench

open Device Number Simulator

namespace Cursor

variable {line : String} {t mark : Token} {rest : List Token}

@[simp] theorem current_cons : current ⟨line, t :: rest⟩ = t := rfl

@[simp] theorem advance_cons : advance ⟨line, t :: rest⟩ = ⟨line, rest⟩ := rfl

theorem hasMore_cons (hfinish : t.kind ≠ .finish) (hvalid : t.kind ≠ .invalid) :
    hasMore ⟨line, t :: rest⟩ = true := by
  rw [hasMore, current_cons]
  simp [hfinish, hvalid]

/-- Behind a valid token comes the one that stands behind it. -/
theorem next_cons (hfinish : t.kind ≠ .finish) (hvalid : t.kind ≠ .invalid) :
    next ⟨line, t :: mark :: rest⟩ = mark := by
  rw [next, hasMore_cons hfinish hvalid]
  rfl

end Cursor

namespace Action

/-- An action goes through from a session, with a value and the session behind it. -/
def Gives {α : Type} (a : Action α) (s : Session) (x : α) (s' : Session) : Prop :=
  a.run.run s = (.ok x, s')

variable {α : Type} {s : Session} {x : α}

/-- A call of the driver in use goes through if the driver answers it. -/
theorem gives_drive {c : Call α} {n : Nat} {d d' : State} (hn : s.active = some n)
    (hd : s.fleet.get? n = some d) (h : c.Gives d x d') :
    (drive c).Gives s x (s.withDriver n d') := by
  unfold Call.Gives at h
  rw [Gives, run_drive, hn]
  dsimp only
  rw [hd]
  dsimp only
  rw [h]

theorem Gives.atSpan {a : Action α} (h : a.Gives s x s') (span : Span) :
    (a.atSpan span).Gives s x s' := by
  unfold Gives at *
  rw [run_atSpan, h]

end Action

namespace Reading

variable {α β : Type} {c c' c'' : Cursor} {s s' s'' : Session} {a : α} {b : β}

/-- A reading goes through from a cursor and a session, with a value and the cursor and the session
behind it. -/
def Gives (r : Reading α) (c : Cursor) (s : Session) (a : α) (c' : Cursor) (s' : Session) : Prop :=
  r.run c s = ((.ok a, c'), s')

/-- A reading fails from a cursor and a session. -/
def Fails (r : Reading α) (c : Cursor) (s : Session) : Prop :=
  ∃ f c' s', r.run c s = ((.error f, c'), s')

theorem gives_pure (a : α) : Gives (pure a) c s a c s := rfl

theorem Gives.bind {r : Reading α} {f : α → Reading β} (h : Gives r c s a c' s')
    (hf : Gives (f a) c' s' b c'' s'') : Gives (r >>= f) c s b c'' s'' := by
  unfold Gives at *
  rw [run_bind, h]
  exact hf

/-- Behind a reading that goes through comes what was read with it. -/
theorem Gives.bind_run {r : Reading α} (h : Gives r c s a c' s') (f : α → Reading β) :
    (r >>= f).run c s = (f a).run c' s' := by
  unfold Gives at h
  rw [run_bind, h]

theorem Gives.bind_fails {r : Reading α} {f : α → Reading β} (h : Gives r c s a c' s')
    (hf : Fails (f a) c' s') : Fails (r >>= f) c s := by
  unfold Fails
  rw [h.bind_run]
  exact hf

theorem Fails.bind {r : Reading α} {f : α → Reading β} (h : Fails r c s) : Fails (r >>= f) c s := by
  obtain ⟨failure, c', s', h⟩ := h
  refine ⟨failure, c', s', ?_⟩
  rw [run_bind, h]

theorem fails_raise (fault : Fault) (span : Span) : Fails (raise fault span : Reading α) c s :=
  ⟨_, _, _, rfl⟩

/-- A reading fails from a cursor and a session with a failure, and with the session behind it. -/
def Refuses (r : Reading α) (c : Cursor) (s : Session) (f : Failure) (s' : Session) : Prop :=
  ∃ c', r.run c s = ((.error f, c'), s')

theorem Gives.bind_refuses {r : Reading α} {k : α → Reading β} {f : Failure}
    (h : Gives r c s a c' s') (hk : Refuses (k a) c' s' f s'') : Refuses (r >>= k) c s f s'' := by
  unfold Refuses
  rw [h.bind_run]
  exact hk

theorem Refuses.bind {r : Reading α} {k : α → Reading β} {f : Failure} (h : Refuses r c s f s') :
    Refuses (r >>= k) c s f s' := by
  obtain ⟨c', h⟩ := h
  refine ⟨c', ?_⟩
  rw [run_bind, h]

theorem refuses_raise (fault : Fault) (span : Span) :
    Refuses (raise fault span : Reading α) c s (fault.atSpan span) s :=
  ⟨c, rfl⟩

/-- A reading that fails does so with one code. -/
theorem Refuses.exists_code_iff {r : Reading α} {f : Failure} (h : Refuses r c s f s')
    (code : String) : (∃ f' c' s', r.run c s = ((.error f', c'), s') ∧ f'.fault.code = code) ↔
      f.fault.code = code := by
  obtain ⟨c', h⟩ := h
  rw [h]
  constructor
  · rintro ⟨f', _, _, heq, hcode⟩
    cases heq
    exact hcode
  · intro hcode
    exact ⟨f, c', s', rfl, hcode⟩

/-- What fails does not go through. -/
theorem Refuses.not_goes_through {r : Reading α} {f : Failure} (h : Refuses r c s f s') :
    ¬ ∃ a c' s', r.run c s = ((.ok a, c'), s') := by
  obtain ⟨c', h⟩ := h
  rw [h]
  rintro ⟨_, _, _, heq⟩
  cases heq

/-- What has gone through behind another reading went through from where that one led. -/
theorem Gives.exists_of_bind {r : Reading α} {f : α → Reading β}
    (h : Gives (r >>= f) c s b c'' s'') :
    ∃ a c' s', Gives r c s a c' s' ∧ Gives (f a) c' s' b c'' s'' := by
  unfold Gives at h
  rw [run_bind] at h
  rcases hr : r.run c s with ⟨⟨f | a, c'⟩, s'⟩
  · rw [hr] at h
    cases h
  · rw [hr] at h
    exact ⟨a, c', s', hr, h⟩

/-- A reading that goes through stays within what it stays within. -/
theorem Gives.within {R : Session → Session → Prop} {r : Reading α} (h : Gives r c s a c' s')
    (hr : Within R r) : R s s' := by
  have hw := hr c s
  unfold Gives at h
  rwa [h] at hw

theorem gives_liftM {x : Action α} (h : x.Gives s a s') : Gives (liftM x) c s a c s' := by
  unfold Action.Gives at h
  rw [Gives, run_liftM, h]

/-- A call that the driver in use answers with an error, and that leaves the driver as it is, fails
with that error and leaves the session as it is. -/
theorem refuses_drive {call : Call α} {e : DriverError} {n : Nat} {d : State}
    (hn : s.active = some n) (hd : s.fleet.get? n = some d) (h : call.run.run d = (.error e, d)) :
    Refuses (liftM (Action.drive call)) c s ⟨.driver e, none⟩ s := by
  refine ⟨c, ?_⟩
  rw [run_liftM, Action.run_drive, hn]
  dsimp only
  rw [hd]
  dsimp only
  rw [h]
  dsimp only
  rw [Session.withDriver_self hd]

theorem gives_activeDriver {d : State} (hd : s.driver? = some d) :
    Gives (liftM Action.activeDriver) c s d c s := by
  rw [Gives, run_liftM, Action.run_activeDriver, hd]

theorem gives_session : Gives session c s s c s := rfl

theorem gives_change (f : Session → Session) : Gives (change f) c s () c (f s) := rfl

theorem gives_lift {value : Except Failure α} (h : value = .ok a) :
    Gives (lift value) c s a c s := by
  subst h
  rfl

theorem gives_requireDriver {keyword : String} {span : Span} (h : s.driver?.isSome) :
    Gives (requireDriver keyword span) c s () c s := by
  refine gives_session.bind ?_
  rw [if_neg (by simpa [Option.isSome_iff_ne_none] using h)]
  exact gives_pure ()

/-- A size stands in a token. -/
def IsSize (t : Token) (n : Nat) : Prop :=
  t.kind = .constant ∧ IntegerType.size.readNatural t.text = .ok n

/-! ## A token ahead -/

section Token

variable {line : String} {t : Token} {rest : List Token} {kind : TokenKind}

theorem gives_current : Gives current ⟨line, t :: rest⟩ s t ⟨line, t :: rest⟩ s := rfl

theorem gives_advance : Gives advance ⟨line, t :: rest⟩ s () ⟨line, rest⟩ s := rfl

theorem gives_consume : Gives consume ⟨line, t :: rest⟩ s t ⟨line, rest⟩ s := rfl

theorem gives_skip (h : t.kind = kind) :
    Gives (skip kind) ⟨line, t :: rest⟩ s true ⟨line, rest⟩ s := by
  have haccept : Gives (accept kind) ⟨line, t :: rest⟩ s (some t) ⟨line, rest⟩ s := by
    rw [Gives, run_accept, Cursor.current_cons, if_pos h, Cursor.advance_cons]
  exact haccept.bind (gives_pure _)

theorem gives_skip_of_ne (h : t.kind ≠ kind) :
    Gives (skip kind) ⟨line, t :: rest⟩ s false ⟨line, t :: rest⟩ s := by
  have haccept : Gives (accept kind) ⟨line, t :: rest⟩ s none ⟨line, t :: rest⟩ s := by
    rw [Gives, run_accept, Cursor.current_cons, if_neg h]
  exact haccept.bind (gives_pure _)

theorem gives_require {fault : Fault} (hkind : kind ≠ .invalid) (h : t.kind = kind) :
    Gives (require kind fault) ⟨line, t :: rest⟩ s t ⟨line, rest⟩ s := by
  rw [Gives, run_require _ hkind, Cursor.current_cons, if_pos h, Cursor.advance_cons]

theorem gives_closeArguments (h : t.kind = .closeParen) :
    Gives closeArguments ⟨line, t :: rest⟩ s () ⟨line, rest⟩ s :=
  (gives_require (by decide) h).bind (gives_pure _)

theorem gives_comma (h : t.kind = .comma) : Gives comma ⟨line, t :: rest⟩ s () ⟨line, rest⟩ s :=
  (gives_require (by decide) h).bind (gives_pure _)

theorem gives_openArguments {keyword : String} (h : t.kind = .openParen) :
    Gives (openArguments keyword) ⟨line, t :: rest⟩ s () ⟨line, rest⟩ s :=
  (gives_skip h).bind (gives_pure _)

/-- A number is read off its token. -/
theorem gives_numberArgument {type : IntegerType} {what : String} {n : Nat}
    (hkind : t.kind = .constant) (hn : type.readNatural t.text = .ok n) :
    Gives (numberArgument type what) ⟨line, t :: rest⟩ s (n, t) ⟨line, rest⟩ s := by
  have htoken : Gives (constantToken what) ⟨line, t :: rest⟩ s t ⟨line, rest⟩ s := by
    refine gives_current.bind ?_
    rw [if_neg (not_not_intro hkind)]
    exact gives_advance.bind (gives_pure _)
  refine htoken.bind ((gives_lift ?_).bind (gives_pure _))
  rw [hn]
  rfl

end Token

/-! ## What small readings come to -/

section Steps

variable {t : Token} {rest : List Token} {line : String}

theorem run_skip (kind : TokenKind) (c : Cursor) (s : Session) :
    (skip kind).run c s =
      if c.current.kind = kind then ((.ok true, c.advance), s) else ((.ok false, c), s) := by
  unfold skip
  rw [run_bind, run_accept]
  by_cases h : c.current.kind = kind
  · rw [if_pos h, if_pos h]
    rfl
  · rw [if_neg h, if_neg h]
    rfl

theorem run_requireDriver (keyword : String) (span : Span) (c : Cursor) (s : Session) :
    (requireDriver keyword span).run c s =
      if s.driver?.isNone then ((.error ((Fault.driverRequired keyword).atSpan span), c), s)
      else ((.ok (), c), s) := by
  unfold requireDriver
  rw [run_bind, gives_session]
  dsimp only
  split <;> rfl

theorem run_constantToken (what : String) (c : Cursor) (s : Session) :
    (constantToken what).run c s =
      if c.current.kind = .constant then ((.ok c.current, c.advance), s)
      else ((.error ((Fault.constantRequired what).atSpan c.current.span), c), s) := by
  have hcurrent : current.run c s = ((.ok c.current, c), s) := rfl
  unfold constantToken
  rw [run_bind, hcurrent]
  dsimp only
  by_cases h : c.current.kind = .constant
  · rw [if_pos h, if_neg (not_not_intro h)]
    rfl
  · rw [if_neg h, if_pos h]
    rfl

theorem run_refuseInvalid (c : Cursor) (s : Session) :
    refuseInvalid.run c s =
      if c.current.kind = .invalid then ((.error c.current.invalidFailure, c), s)
      else ((.ok (), c), s) := by
  have hcurrent : current.run c s = ((.ok c.current, c), s) := rfl
  unfold refuseInvalid
  rw [run_bind, hcurrent]
  dsimp only
  split <;> rfl

theorem run_openArguments (keyword : String) (c : Cursor) (s : Session) :
    (openArguments keyword).run c s =
      if c.current.kind = .openParen then ((.ok (), c.advance), s)
      else ((.error ((Fault.openParenRequired keyword).atSpan c.current.span), c), s) := by
  unfold openArguments
  rw [run_bind, run_skip]
  by_cases h : c.current.kind = .openParen
  · rw [if_pos h, if_pos h]
    rfl
  · rw [if_neg h, if_neg h]
    rfl

/-- The token ahead is of no kind that a token of the line can have, if there is none. -/
theorem exists_cons_of_kind {kind : TokenKind} (hk : kind ≠ .finish)
    (h : c.current.kind = kind) :
    ∃ t rest, c.pending = t :: rest ∧ t.kind = kind := by
  rcases c with ⟨line, _ | ⟨t, rest⟩⟩
  · exact absurd h.symm hk
  · exact ⟨t, rest, rfl, h⟩

theorem Gives.of_lift {value : Except Failure α} {x : α} (h : Gives (lift value) c s x c' s') :
    value = .ok x ∧ c' = c ∧ s' = s := by
  cases value with
  | error f => cases h
  | ok x' =>
    cases h
    exact ⟨rfl, rfl, rfl⟩

/-- A token that was skipped stood ahead. -/
theorem Gives.of_skip {kind : TokenKind} (hk : kind ≠ .finish)
    (h : Gives (skip kind) c s true c' s') :
    ∃ mark rest, mark.kind = kind ∧ c.pending = mark :: rest ∧ c' = ⟨c.line, rest⟩ ∧ s' = s := by
  unfold Gives at h
  rw [run_skip] at h
  split at h
  next hkind =>
    obtain ⟨mark, rest, hpending, hmark⟩ := exists_cons_of_kind hk hkind
    cases h
    exact ⟨mark, rest, hmark, hpending, by rw [Cursor.advance, hpending, List.tail_cons], rfl⟩
  next => cases h

/-- Where no token was skipped, nothing has moved. -/
theorem Gives.of_not_skip {kind : TokenKind} (h : Gives (skip kind) c s false c' s') :
    c' = c ∧ s' = s := by
  unfold Gives at h
  rw [run_skip] at h
  split at h
  next => cases h
  next =>
    cases h
    exact ⟨rfl, rfl⟩

/-- The token that was read as a constant stood ahead. -/
theorem Gives.of_constantToken {what : String} (h : Gives (constantToken what) c s t c' s') :
    ∃ rest, t.kind = .constant ∧ c.pending = t :: rest ∧ c' = ⟨c.line, rest⟩ ∧ s' = s := by
  unfold Gives at h
  rw [run_constantToken] at h
  split at h
  next hkind =>
    obtain ⟨t', rest, hpending, ht⟩ := exists_cons_of_kind (by decide) hkind
    have hcurrent : c.current = t' := by rw [Cursor.current, hpending, List.headD_cons]
    cases h
    exact ⟨rest, hcurrent ▸ ht, hcurrent ▸ hpending,
      by rw [Cursor.advance, hpending, List.tail_cons], rfl⟩
  next => cases h

/-- The number that was read stood ahead. -/
theorem Gives.of_numberArgument {type : IntegerType} {what : String} {n : Nat}
    (h : Gives (numberArgument type what) c s (n, t) c' s') :
    ∃ rest, t.kind = .constant ∧ type.readNatural t.text = .ok n ∧ c.pending = t :: rest ∧
      c' = ⟨c.line, rest⟩ ∧ s' = s := by
  obtain ⟨t₁, c₁, s₁, htoken, hnumber⟩ := h.exists_of_bind
  obtain ⟨n₁, c₂, s₂, hvalue, hpair⟩ := hnumber.exists_of_bind
  obtain ⟨rest, hkind, hpending, rfl, rfl⟩ := htoken.of_constantToken
  obtain ⟨hread, rfl, rfl⟩ := hvalue.of_lift
  cases hpair
  cases hn : type.readNatural t.text with
  | error e =>
    rw [hn] at hread
    cases hread
  | ok m =>
    rw [hn] at hread
    cases hread
    exact ⟨rest, hkind, rfl, hpending, rfl, rfl⟩

/-- The token that was required stood ahead. -/
theorem Gives.of_require {kind : TokenKind} {fault : Fault} (hinvalid : kind ≠ .invalid)
    (hfinish : kind ≠ .finish) (h : Gives (require kind fault) c s t c' s') :
    ∃ rest, t.kind = kind ∧ c.pending = t :: rest ∧ c' = ⟨c.line, rest⟩ ∧ s' = s := by
  unfold Gives at h
  rw [run_require _ hinvalid] at h
  split at h
  next hkind =>
    obtain ⟨t', rest, hpending, ht⟩ := exists_cons_of_kind hfinish hkind
    have hcurrent : c.current = t' := by rw [Cursor.current, hpending, List.headD_cons]
    cases h
    exact ⟨rest, hcurrent ▸ ht, hcurrent ▸ hpending,
      by rw [Cursor.advance, hpending, List.tail_cons], rfl⟩
  next => cases h

/-- A check that was passed. -/
theorem Gives.of_guard {p : Prop} [Decidable p] {fault : Fault} {span : Span}
    {k : Unit → Reading α} {r : Reading α} {x : α}
    (h : Gives (if p then raise fault span >>= k else r) c s x c' s') :
    ¬ p ∧ Gives r c s x c' s' := by
  split at h
  · cases h
  · exact ⟨‹_›, h⟩

theorem gives_constantToken {what : String} (ht : t.kind = .constant) :
    Gives (constantToken what) ⟨line, t :: rest⟩ s t ⟨line, rest⟩ s := by
  unfold Gives
  rw [run_constantToken, Cursor.current_cons, if_pos ht, Cursor.advance_cons]

end Steps

/-! ## Loops -/

section Loops

variable {σ : Type} {a b : σ}

theorem gives_loop_of_done {step : σ → Reading (Step σ)} (h : Gives (step a) c s (.done b) c' s') :
    Gives (loop step a) c s b c' s' := by
  change loopFrom step a c s = _
  unfold Gives at h
  rw [loopFrom, h]

/-- A loop whose step goes on is the loop from there. -/
theorem run_loop_of_next {step : σ → Reading (Step σ)} (h : Gives (step a) c s (.next b) c' s')
    (hlt : c'.pending.length < c.pending.length) :
    (loop step a).run c s = (loop step b).run c' s' := by
  change loopFrom step a c s = loopFrom step b c' s'
  unfold Gives at h
  rw [loopFrom, h]
  dsimp only
  rw [if_pos hlt]

theorem run_loop_of_error {step : σ → Reading (Step σ)} {f : Failure}
    (h : (step a).run c s = ((.error f, c'), s')) :
    (loop step a).run c s = ((.error f, c'), s') := by
  change loopFrom step a c s = _
  rw [loopFrom, h]

theorem gives_loop_of_next {step : σ → Reading (Step σ)} {b' : σ} {c'' : Cursor} {s'' : Session}
    (h : Gives (step a) c s (.next b') c' s') (hlt : c'.pending.length < c.pending.length)
    (hrest : Gives (loop step b') c' s' b c'' s'') : Gives (loop step a) c s b c'' s'' :=
  (run_loop_of_next h hlt).trans hrest

/-- A loop that goes through has gone through its first step, and is done then or goes on. -/
theorem Gives.of_loop {step : σ → Reading (Step σ)} (h : Gives (loop step a) c s b c' s') :
    Gives (step a) c s (.done b) c' s' ∨
      ∃ b₁ c₁ s₁, Gives (step a) c s (.next b₁) c₁ s₁ ∧
        (c₁.pending.length < c.pending.length → Gives (loop step b₁) c₁ s₁ b c' s') := by
  change loopFrom step a c s = _ at h
  rw [loopFrom] at h
  rcases hr : (step a).run c s with ⟨⟨f | b₁ | b₁, c₁⟩, s₁⟩
  · rw [hr] at h
    cases h
  · rw [hr] at h
    refine .inr ⟨b₁, c₁, s₁, hr, fun hlt => ?_⟩
    dsimp only at h
    rwa [if_pos hlt] at h
  · rw [hr] at h
    dsimp only at h
    cases h
    exact .inl hr

/-- **A loop that goes through** is taken apart from its last step to its first one, if each step
that goes on takes a token. -/
theorem Gives.of_loop_rec {step : σ → Reading (Step σ)} {motive : σ → Cursor → Session → Prop}
    (htakes : ∀ {a b c c' s s'}, Gives (step a) c s (.next b) c' s' →
      c'.pending.length < c.pending.length)
    (hdone : ∀ {a c s}, Gives (step a) c s (.done b) c' s' → motive a c s)
    (hnext : ∀ {a a₁ c c₁ s s₁}, Gives (step a) c s (.next a₁) c₁ s₁ → motive a₁ c₁ s₁ →
      motive a c s) (h : Gives (loop step a) c s b c' s') : motive a c s := by
  induction hn : c.pending.length using Nat.strongRecOn generalizing a c s with
  | ind n ih =>
    subst hn
    obtain hlast | ⟨a₁, c₁, s₁, hfirst, hrest⟩ := h.of_loop
    · exact hdone hlast
    · exact hnext hfirst (ih _ (htakes hfirst) (hrest (htakes hfirst)) rfl)

end Loops

/-! ## What stands around a reading -/

/-- What is held is let go behind a reading that goes through. -/
theorem Gives.holding {r : Reading α} (h : Gives r c s a c' s') (e : Entity) :
    Gives (holding e r) c s a c' (s'.letGo [e]) := by
  unfold Gives at *
  rw [run_holding, h]

theorem Fails.holding {r : Reading α} (h : Fails r c s) (e : Entity) : Fails (holding e r) c s := by
  obtain ⟨failure, c', s', h⟩ := h
  refine ⟨failure, c', s'.letGo [e], ?_⟩
  rw [run_holding, h]

theorem Refuses.holding {r : Reading α} {f : Failure} (h : Refuses r c s f s') (e : Entity) :
    Refuses (holding e r) c s f (s'.letGo [e]) := by
  obtain ⟨c', h⟩ := h
  refine ⟨c', ?_⟩
  rw [run_holding, h]

/-- Nothing is undone behind a reading that goes through. -/
theorem Gives.undoing {r : Reading α} (h : Gives r c s a c' s') (k : Handle) :
    Gives (undoing k r) c s a c' s' := by
  unfold Gives at *
  rw [run_undoing, h]

end Reading

end DriverBench
