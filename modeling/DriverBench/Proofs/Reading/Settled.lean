import DriverBench.Proofs.Reading.Gives
/-!
# Readings that are settled by what they take

A reading that goes through has taken tokens off the front, and what it comes to is settled by them
and by so many tokens behind them (`Reading.Settled`): with other tokens further on, on a line of
its own, it comes to the same and takes the same.

Three kinds make up everything. Some readings do not look at the tokens at all (`Still`). Most look
at one token behind those that they take, to see whether they go on (`Looks`). A reading that ends
with a token which it must have and takes (`Closes`) needs none behind that, and whatever looks
ahead in front of it looks at a token that is taken in the end.
-/

namespace DriverBench

open Device Number Simulator

namespace Reading

variable {α β σ : Type} {n m k m₁ k₁ m₂ k₂ : Nat} {r : Reading α} {f : α → Reading β}

/-- **Settled.** Where so many tokens are ahead at most and the reading goes through, it stays on
the line and has taken `m` tokens or more; and with anything further on than `k` tokens behind
these, it gives the same and takes the same. -/
def Settled (n m k : Nat) (r : Reading α) : Prop :=
  ∀ c s a d t, c.pending.length ≤ n → Gives r c s a d t →
    d.line = c.line ∧ ∃ taken, c.pending = taken ++ d.pending ∧ m ≤ taken.length ∧
      ∀ v rest later line', d.pending = v ++ rest → k ≤ v.length →
        Gives r ⟨line', taken ++ (v ++ later)⟩ s a ⟨line', v ++ later⟩ t

/-- A reading that neither takes a token nor looks at one. -/
def Still (n : Nat) (r : Reading α) : Prop := Settled n 0 0 r

/-- A reading that looks at no more than one token behind those that it takes. -/
def Looks (n : Nat) (r : Reading α) : Prop := Settled n 0 1 r

/-- A reading that takes a token and looks at none behind those that it takes. -/
def Closes (n : Nat) (r : Reading α) : Prop := Settled n 1 0 r

theorem Settled.mono (h : Settled n m₁ k₁ r) (hm : m ≤ m₁) (hk : k₁ ≤ k) : Settled n m k r := by
  intro c s a d t hn hr
  obtain ⟨hline, taken, hpending, hlength, hsame⟩ := h c s a d t hn hr
  exact ⟨hline, taken, hpending, Nat.le_trans hm hlength, fun v rest later line' hv hvk =>
    hsame v rest later line' hv (Nat.le_trans hk hvk)⟩

theorem Still.looks (h : Still n r) : Looks n r := Settled.mono h (Nat.le_refl 0) (Nat.zero_le 1)

theorem Closes.looks (h : Closes n r) : Looks n r := Settled.mono h (Nat.zero_le 1) (Nat.zero_le 1)

/-! ## Sequences, branches and loops -/

/-- **What the first part looks at** behind the tokens that it takes has to be among those that the
second part takes or looks at. -/
theorem Settled.bind (h : Settled n m₁ k₁ r) (hf : ∀ a, Settled n m₂ k₂ (f a))
    (hm : m ≤ m₁ + m₂) (hk₁ : k₁ ≤ m₂ + k) (hk₂ : k₂ ≤ k) : Settled n m k (r >>= f) := by
  intro c s b e u hn hr
  obtain ⟨a, d, t, hfirst, hsecond⟩ := hr.exists_of_bind
  obtain ⟨hline, taken, hpending, hlength, hsame⟩ := h c s a d t hn hfirst
  have hd : d.pending.length ≤ n := by
    rw [hpending, List.length_append] at hn
    omega
  obtain ⟨hline', taken', hpending', hlength', hsame'⟩ := hf a d t b e u hd hsecond
  refine ⟨hline'.trans hline, taken ++ taken', ?_, ?_, fun v rest later line' hv hvk => ?_⟩
  · rw [hpending, hpending', List.append_assoc]
  · rw [List.length_append]
    omega
  · have hfront : d.pending = (taken' ++ v) ++ rest := by rw [hpending', hv, List.append_assoc]
    have hbetween : Gives r ⟨line', taken ++ ((taken' ++ v) ++ later)⟩ s a
        ⟨line', (taken' ++ v) ++ later⟩ t :=
      hsame _ rest later line' hfront (by rw [List.length_append]; omega)
    rw [List.append_assoc] at hbetween ⊢
    exact hbetween.bind (hsame' v rest later line' hv (Nat.le_trans hk₂ hvk))

theorem Still.bind (h : Still n r) (hf : ∀ a, Settled n m k (f a)) : Settled n m k (r >>= f) :=
  Settled.bind h hf (by omega) (Nat.zero_le _) (Nat.le_refl k)

theorem Looks.bind (h : Looks n r) (hf : ∀ a, Looks n (f a)) : Looks n (r >>= f) :=
  Settled.bind h hf (Nat.zero_le _) (by omega) (Nat.le_refl 1)

theorem Looks.bind_closes (h : Looks n r) (hf : ∀ a, Closes n (f a)) : Closes n (r >>= f) :=
  Settled.bind h hf (by omega) (by omega) (Nat.le_refl 0)

theorem Closes.bind_still (h : Closes n r) (hf : ∀ a, Still n (f a)) : Closes n (r >>= f) :=
  Settled.bind h hf (by omega) (Nat.zero_le _) (Nat.le_refl 0)

theorem settled_ite {q : Prop} [Decidable q] {r' : Reading α} (h : Settled n m k r)
    (h' : Settled n m k r') : Settled n m k (if q then r else r') := by
  split <;> assumption

/-- What leaves the cursor where it is and asks only the session. -/
theorem still_of_run {answer : Session → Except Failure α} {g : Session → Session}
    (h : ∀ c s, r.run c s = ((answer s, c), g s)) : Still n r := by
  intro c s a d t hn hr
  unfold Gives at hr
  rw [h] at hr
  cases hanswer : answer s with
  | error f =>
    rw [hanswer] at hr
    cases hr
  | ok a' =>
    rw [hanswer] at hr
    cases hr
    refine ⟨rfl, [], rfl, Nat.le_refl 0, fun v rest later line' _ _ => ?_⟩
    unfold Gives
    rw [h, hanswer]
    rfl

theorem still_pure (a : α) : Still n (pure a) :=
  still_of_run (g := id) fun _ _ => rfl

/-- A failure does not go through. -/
theorem settled_throw (f : Failure) : Settled n m k (throw f : Reading α) :=
  fun _ _ _ _ _ _ hr => nomatch hr

theorem settled_raise (fault : Fault) (span : Span) :
    Settled n m k (raise fault span : Reading α) :=
  settled_throw _

/-- Behind a check that may fail. -/
theorem settled_guard {q : Prop} [Decidable q] {fault : Fault} {span : Span}
    (h : Settled n m k r) :
    Settled n m k (if q then (raise fault span : Reading PUnit) >>= fun _ => r else r) :=
  settled_ite (fun _ _ _ _ _ _ hr => by
    obtain ⟨_, _, _, hraise, -⟩ := hr.exists_of_bind
    cases hraise) h

theorem still_lift (value : Except Failure α) : Still n (lift value) := by
  cases value with
  | ok a => exact still_pure a
  | error f => exact settled_throw f

theorem still_liftM (a : Action α) : Still n (liftM a) :=
  still_of_run fun _ _ => rfl

theorem still_session : Still n session :=
  still_of_run (g := id) fun _ _ => rfl

theorem still_change (g : Session → Session) : Still n (change g) :=
  still_of_run (g := g) fun _ _ => rfl

/-- What goes through inside goes through with the same effect outside. -/
theorem settled_of_gives {r' : Reading α} {g : Session → Session}
    (h : ∀ {c s a d t}, Gives r' c s a d t ↔ ∃ t₀, Gives r c s a d t₀ ∧ t = g t₀)
    (hr : Settled n m k r) : Settled n m k r' := by
  intro c s a d t hn hgives
  obtain ⟨t₀, hr₀, rfl⟩ := h.1 hgives
  obtain ⟨hline, taken, hpending, hlength, hsame⟩ := hr c s a d t₀ hn hr₀
  exact ⟨hline, taken, hpending, hlength, fun v rest later line' hv hvk =>
    h.2 ⟨t₀, hsame v rest later line' hv hvk, rfl⟩⟩

theorem settled_holding (e : Entity) (h : Settled n m k r) : Settled n m k (holding e r) := by
  refine settled_of_gives (g := (·.letGo [e])) (fun {c s a d t} => ⟨fun hgives => ?_, ?_⟩) h
  · unfold Gives at hgives
    rw [run_holding] at hgives
    obtain ⟨hfirst, rfl⟩ := Prod.mk.inj hgives
    exact ⟨_, Prod.ext hfirst rfl, rfl⟩
  · rintro ⟨t₀, hr, rfl⟩
    exact hr.holding e

theorem settled_undoing (key : Handle) (h : Settled n m k r) : Settled n m k (undoing key r) := by
  refine settled_of_gives (g := id) (fun {c s a d t} => ⟨fun hgives => ?_, ?_⟩) h
  · unfold Gives at hgives
    rw [run_undoing] at hgives
    rcases hr : r.run c s with ⟨⟨f | a', d'⟩, t'⟩
    · rw [hr] at hgives
      cases hgives
    · rw [hr] at hgives
      cases hgives
      exact ⟨_, hr, rfl⟩
  · rintro ⟨t₀, hr, rfl⟩
    exact hr.undoing key

/-- A loop whose steps end with a token that they take ends with one itself. -/
theorem closes_loop {step : σ → Reading (Step σ)} (h : ∀ a, Closes n (step a)) (a : σ) :
    Closes n (loop step a) := by
  intro c s b d t hn hr
  induction hlength : c.pending.length using Nat.strongRecOn generalizing a c s with
  | ind length ih =>
    subst hlength
    obtain hdone | ⟨b₁, c₁, s₁, hnext, hloop⟩ := hr.of_loop
    · obtain ⟨hline, taken, hpending, hlength, hsame⟩ := h a c s _ d t hn hdone
      exact ⟨hline, taken, hpending, hlength, fun v rest later line' hv hvk =>
        gives_loop_of_done (hsame v rest later line' hv hvk)⟩
    · obtain ⟨hline, taken, hpending, hlength, hsame⟩ := h a c s _ c₁ s₁ hn hnext
      have hlt : c₁.pending.length < c.pending.length := by
        rw [hpending, List.length_append]
        omega
      obtain ⟨hline', taken', hpending', hlength', hsame'⟩ :=
        ih _ hlt b₁ c₁ s₁ (by omega) (hloop hlt) rfl
      refine ⟨hline'.trans hline, taken ++ taken', ?_, ?_, fun v rest later line' hv hvk => ?_⟩
      · rw [hpending, hpending', List.append_assoc]
      · rw [List.length_append]
        omega
      · have hfront : c₁.pending = (taken' ++ v) ++ rest := by
          rw [hpending', hv, List.append_assoc]
        have hstep : Gives (step a) ⟨line', taken ++ ((taken' ++ v) ++ later)⟩ s (.next b₁)
            ⟨line', (taken' ++ v) ++ later⟩ s₁ :=
          hsame _ rest later line' hfront (Nat.zero_le _)
        rw [List.append_assoc] at hstep ⊢
        refine gives_loop_of_next hstep ?_ (hsame' v rest later line' hv hvk)
        simp only [List.length_append]
        omega

/-! ## The tokens ahead -/

theorem looks_current : Looks n current := by
  rintro ⟨line, ts⟩ s a d t hn ⟨⟩
  refine ⟨rfl, [], rfl, Nat.le_refl 0, fun v rest later line' hv hvk => ?_⟩
  obtain rfl : ts = v ++ rest := hv
  cases v with
  | nil => cases hvk
  | cons x v => rfl

theorem looks_here : Looks n here :=
  Looks.bind looks_current fun _ => (still_pure _).looks

theorem looks_consume : Looks n consume := by
  rintro ⟨line, ts⟩ s a d t hn ⟨⟩
  cases ts with
  | nil =>
    refine ⟨rfl, [], rfl, Nat.le_refl 0, fun v rest later line' hv hvk => ?_⟩
    obtain ⟨rfl, -⟩ := List.append_eq_nil_iff.1 (Eq.symm hv)
    cases hvk
  | cons x ts => exact ⟨rfl, [x], rfl, Nat.zero_le _, fun v rest later line' _ _ => rfl⟩

theorem looks_skip (kind : TokenKind) : Looks n (skip kind) := by
  rintro ⟨line, ts⟩ s a d t hn hr
  unfold Gives at hr
  rw [run_skip] at hr
  cases ts with
  | nil =>
    have hd : d = ⟨line, []⟩ := by
      split at hr <;> · cases hr; rfl
    subst hd
    refine ⟨rfl, [], rfl, Nat.le_refl 0, fun v rest later line' hv hvk => ?_⟩
    obtain ⟨rfl, -⟩ := List.append_eq_nil_iff.1 (Eq.symm hv)
    cases hvk
  | cons x ts =>
    rw [Cursor.current_cons, Cursor.advance_cons] at hr
    by_cases hx : x.kind = kind
    · rw [if_pos hx] at hr
      cases hr
      exact ⟨rfl, [x], rfl, Nat.zero_le _, fun v rest later line' _ _ => gives_skip hx⟩
    · rw [if_neg hx] at hr
      cases hr
      refine ⟨rfl, [], rfl, Nat.le_refl 0, fun v rest later line' hv hvk => ?_⟩
      cases v with
      | nil => cases hvk
      | cons y v =>
        obtain ⟨rfl, -⟩ := List.cons.inj hv
        exact gives_skip_of_ne hx

/-- A choice by the token ahead closes if the token is taken in the one case and the other case
closes. -/
theorem closes_skip_bind {kind : TokenKind} (hkind : kind ≠ .finish) {g : Bool → Reading β}
    (htrue : Still n (g true)) (hfalse : Closes n (g false)) : Closes n (skip kind >>= g) := by
  have hwhole : Looks n (skip kind) := looks_skip kind
  intro c s b e u hn hr
  obtain ⟨skipped, d, t, hskip, hrest⟩ := hr.exists_of_bind
  cases skipped with
  | true =>
    obtain ⟨mark, rest, hmark, hpending, rfl, rfl⟩ := hskip.of_skip hkind
    have hd : rest.length ≤ n := by
      rw [hpending, List.length_cons] at hn
      omega
    obtain ⟨hline, taken, hbehind, -, hsame⟩ := htrue _ _ _ _ _ hd hrest
    obtain rfl : rest = taken ++ e.pending := hbehind
    refine ⟨hline, mark :: taken, hpending, by simp, fun v rest later line' hv hvk => ?_⟩
    exact (gives_skip hmark).bind (hsame v rest later line' hv hvk)
  | false =>
    obtain ⟨rfl, rfl⟩ := hskip.of_not_skip
    obtain ⟨hline, taken, hpending, hlength, hsame⟩ := hfalse _ _ _ _ _ hn hrest
    refine ⟨hline, taken, hpending, hlength, fun v rest later line' hv hvk => ?_⟩
    -- The token that was looked at is one of those that are taken.
    obtain ⟨hline₀, taken₀, hpending₀, -, hsame₀⟩ := hwhole _ _ _ _ _ hn hskip
    obtain rfl : taken₀ = [] := List.append_left_eq_self.1 hpending₀.symm
    have hskip' := hsame₀ (taken ++ v) rest later line'
      (by rw [hpending, hv, List.append_assoc]) (by rw [List.length_append]; omega)
    rw [List.nil_append, List.append_assoc] at hskip'
    exact hskip'.bind (hsame v rest later line' hv hvk)

theorem closes_require {kind : TokenKind} (fault : Fault) (hinvalid : kind ≠ .invalid)
    (hfinish : kind ≠ .finish) : Closes n (require kind fault) := by
  rintro c s a d t hn hr
  unfold Gives at hr
  rw [run_require fault hinvalid] at hr
  split at hr
  next hkind =>
    obtain ⟨x, rest, hpending, hx⟩ := exists_cons_of_kind hfinish hkind
    have hcurrent : c.current = x := by rw [Cursor.current, hpending, List.headD_cons]
    have hadvance : c.advance.pending = rest := by
      rw [Cursor.advance, hpending, List.tail_cons]
    cases hr
    refine ⟨rfl, [x], by rw [hadvance, hpending]; rfl, Nat.le_refl 1,
      fun v rest' later line' _ _ => ?_⟩
    rw [hcurrent]
    exact gives_require hinvalid hx
  next => cases hr

theorem closes_closeArguments : Closes n closeArguments :=
  (closes_require _ (by decide) (by decide)).bind_still fun _ => still_pure _

theorem closes_comma : Closes n comma :=
  (closes_require _ (by decide) (by decide)).bind_still fun _ => still_pure _

theorem closes_openArguments (keyword : String) : Closes n (openArguments keyword) := by
  unfold openArguments
  refine closes_skip_bind (by decide) (still_pure _) ?_
  exact looks_here.bind_closes fun _ => settled_raise _ _

theorem still_requireDriver (keyword : String) (span : Span) :
    Still n (requireDriver keyword span) := by
  unfold requireDriver
  exact still_session.bind fun s => settled_ite (settled_raise _ _) (still_pure _)

theorem closes_constantToken (what : String) : Closes n (constantToken what) := by
  rintro c s a d t hn hr
  obtain ⟨rest, hkind, hpending, rfl, rfl⟩ := hr.of_constantToken
  exact ⟨rfl, [a], hpending, Nat.le_refl 1, fun v rest' later line' _ _ =>
    gives_constantToken hkind⟩

theorem closes_numberArgument (type : IntegerType) (what : String) :
    Closes n (numberArgument type what) :=
  (closes_constantToken what).bind_still fun _ => (still_lift _).bind fun _ => still_pure _

end Reading

end DriverBench
