import Mathlib.Data.List.Forall2
import DriverBench.Proofs.Reading.Gives
/-!
# Reading two lines whose tokens are alike

Two lines may differ in their blanks and still have the same tokens, one by one, at other places
(`Pairing`). What reads tokens and nothing else cannot tell such lines apart: from the same session
it gives related values on both, takes as many tokens and leads to the same session, or it fails on
both with the same fault, at tokens that belong together or at no place at all (`Pairing.Alike`).

The rules go through sequences, branches and loops. A bound on the tokens ahead goes with them, so
that evaluation, which calls itself with fewer of them, can be followed by induction on the bound.
-/

namespace DriverBench

open Device Number Simulator

/-- The tokens of two lines, paired. Paired tokens agree in kind and text, and the ends of the lines
are a pair. -/
structure Pairing where
  line : String
  line' : String
  Pairs : Token → Token → Prop
  kind_eq : ∀ {t t'}, Pairs t t' → t'.kind = t.kind
  text_eq : ∀ {t t'}, Pairs t t' → t'.text = t.text
  finish : Pairs (Token.finishAt (Text.byteLength line.toList))
    (Token.finishAt (Text.byteLength line'.toList))

namespace Pairing

variable {α β σ : Type} (p : Pairing)

/-- Places of two lines that are those of a pair of tokens. -/
def Spans (sp sp' : Span) : Prop :=
  ∃ t t', p.Pairs t t' ∧ sp = t.span ∧ sp' = t'.span

/-- The same fault, at a pair of tokens or at no place. -/
structure Failures (f f' : Failure) : Prop where
  fault : f'.fault = f.fault
  span : Option.Rel p.Spans f.span f'.span

/-- Related values, or the same failure. -/
inductive Answers (R : α → α → Prop) : Except Failure α → Except Failure α → Prop
  | ok {a a' : α} : R a a' → Answers R (.ok a) (.ok a')
  | error {f f' : Failure} : p.Failures f f' → Answers R (.error f) (.error f')

/-- Cursors on the two lines, with the same tokens ahead, so many at most. -/
structure Cursors (n : Nat) (c c' : Cursor) : Prop where
  line : c.line = p.line
  line' : c'.line = p.line'
  pending : List.Forall₂ p.Pairs c.pending c'.pending
  bound : c.pending.length ≤ n

/-- Runs that came to related values or to the same failure, and to cursors before the same tokens
and to one session. -/
structure Runs (n : Nat) (R : α → α → Prop) (x x' : (Except Failure α × Cursor) × Session) :
    Prop where
  answers : p.Answers R x.1.1 x'.1.1
  cursors : p.Cursors n x.1.2 x'.1.2
  session : x'.2 = x.2

/-- **Read alike.** From cursors before the same tokens, so many at most, and from one session, two
readings come to the same. -/
def Alike (n : Nat) (r r' : Reading α) (R : α → α → Prop) : Prop :=
  ∀ c c' s, p.Cursors n c c' → p.Runs n R (r.run c s) (r'.run c' s)

variable {p} {n : Nat} {R : α → α → Prop} {R' : β → β → Prop} {r r' : Reading α} {t t' : Token}

theorem Spans.of_pairs (h : p.Pairs t t') : p.Spans t.span t'.span :=
  ⟨t, t', h, rfl, rfl⟩

theorem Failures.atSpan {sp sp' : Span} (fault : Fault) (h : p.Spans sp sp') :
    p.Failures (fault.atSpan sp) (fault.atSpan sp') :=
  ⟨rfl, .some h⟩

theorem Answers.of_failure {fault : Fault} {sp sp' : Span} (h : p.Spans sp sp') :
    p.Answers R (.error (fault.atSpan sp)) (.error (fault.atSpan sp')) :=
  .error (.atSpan fault h)

theorem Cursors.mono {m : Nat} {c c' : Cursor} (h : p.Cursors n c c') (hnm : n ≤ m) :
    p.Cursors m c c' :=
  ⟨h.line, h.line', h.pending, Nat.le_trans h.bound hnm⟩

theorem Runs.mono {m : Nat} {x x' : (Except Failure α × Cursor) × Session} (h : p.Runs n R x x')
    (hnm : n ≤ m) : p.Runs m R x x' :=
  ⟨h.answers, h.cursors.mono hnm, h.session⟩

/-! ## Values of tokens -/

theorem answers_located (h : p.Pairs t t') (value : Except ConstantError α) :
    p.Answers Eq (t.located value) (t'.located value) := by
  cases value with
  | ok a => exact .ok rfl
  | error e => exact .of_failure (.of_pairs h)

theorem answers_unquoted (h : p.Pairs t t') : p.Answers Eq t.unquoted t'.unquoted := by
  unfold Token.unquoted
  rw [p.kind_eq h, p.text_eq h]
  split
  · exact .ok rfl
  · exact .of_failure (.of_pairs h)

theorem answers_wordOrText (h : p.Pairs t t') : p.Answers Eq t.wordOrText t'.wordOrText := by
  unfold Token.wordOrText
  rw [p.kind_eq h, p.text_eq h]
  split
  · exact answers_unquoted h
  · exact .ok rfl
  · exact .ok rfl
  · exact .of_failure (.of_pairs h)

theorem failures_invalidFailure (h : p.Pairs t t') :
    p.Failures t.invalidFailure t'.invalidFailure := by
  unfold Token.invalidFailure
  rw [p.text_eq h]
  split <;> exact .atSpan _ (.of_pairs h)

/-! ## Sequences, branches and loops -/

/-- What leaves the cursor where it is, and answers alike. -/
theorem alike_of_still {answer answer' : Session → Except Failure α} {g : Session → Session}
    (h : ∀ c s, r.run c s = ((answer s, c), g s))
    (h' : ∀ c s, r'.run c s = ((answer' s, c), g s))
    (hanswer : ∀ s, p.Answers R (answer s) (answer' s)) : p.Alike n r r' R := by
  intro c c' s hc
  rw [h, h']
  exact ⟨hanswer s, hc, rfl⟩

theorem alike_pure {a a' : α} (h : R a a') : p.Alike n (pure a) (pure a') R :=
  alike_of_still (g := id) (fun _ _ => rfl) (fun _ _ => rfl) fun _ => .ok h

theorem alike_throw {f f' : Failure} (h : p.Failures f f') :
    p.Alike n (throw f : Reading α) (throw f') R :=
  alike_of_still (g := id) (fun _ _ => rfl) (fun _ _ => rfl) fun _ => .error h

theorem alike_raise {sp sp' : Span} (fault : Fault) (h : p.Spans sp sp') :
    p.Alike n (Reading.raise fault sp : Reading α) (Reading.raise fault sp') R :=
  alike_throw (.atSpan fault h)

theorem alike_lift {value value' : Except Failure α} (h : p.Answers R value value') :
    p.Alike n (Reading.lift value) (Reading.lift value') R := by
  cases h with
  | ok h => exact alike_pure h
  | error h => exact alike_throw h

theorem Alike.bind {f f' : α → Reading β} (h : p.Alike n r r' R)
    (hf : ∀ a a', R a a' → p.Alike n (f a) (f' a') R') : p.Alike n (r >>= f) (r' >>= f') R' := by
  intro c c' s hc
  obtain ⟨hanswer, hcursors, hsession⟩ := h c c' s hc
  rw [Reading.run_bind, Reading.run_bind]
  rcases hr : r.run c s with ⟨⟨x, d⟩, u⟩
  rcases hr' : r'.run c' s with ⟨⟨x', d'⟩, u'⟩
  rw [hr, hr'] at hanswer hcursors hsession
  obtain rfl : u' = u := hsession
  cases hanswer with
  | ok ha => exact hf _ _ ha d d' u' hcursors
  | error hf => exact ⟨.error hf, hcursors, rfl⟩

theorem alike_ite {q : Prop} [Decidable q] {b b' : Reading α} (ha : p.Alike n r r' R)
    (hb : p.Alike n b b' R) : p.Alike n (if q then r else b) (if q then r' else b') R := by
  split <;> assumption

/-- Behind a check that fails at a pair of tokens. -/
theorem alike_guard {q : Prop} [Decidable q] {fault : Fault} {sp sp' : Span} (h : p.Spans sp sp')
    (hr : p.Alike n r r' R) :
    p.Alike n (if q then (Reading.raise fault sp : Reading PUnit) >>= fun _ => r else r)
      (if q then (Reading.raise fault sp' : Reading PUnit) >>= fun _ => r' else r') R :=
  alike_ite ((alike_raise (R := fun _ _ => True) fault h).bind fun _ _ _ => hr) hr

theorem alike_holding (e : Entity) (h : p.Alike n r r' R) :
    p.Alike n (Reading.holding e r) (Reading.holding e r') R := by
  intro c c' s hc
  obtain ⟨hanswer, hcursors, hsession⟩ := h c c' s hc
  rw [Reading.run_holding, Reading.run_holding]
  exact ⟨hanswer, hcursors, congrArg (·.letGo [e]) hsession⟩

theorem alike_undoing (k : Handle) (h : p.Alike n r r' R) :
    p.Alike n (Reading.undoing k r) (Reading.undoing k r') R := by
  intro c c' s hc
  obtain ⟨hanswer, hcursors, hsession⟩ := h c c' s hc
  rw [Reading.run_undoing, Reading.run_undoing]
  rcases hr : r.run c s with ⟨⟨x, d⟩, u⟩
  rcases hr' : r'.run c' s with ⟨⟨x', d'⟩, u'⟩
  rw [hr, hr'] at hanswer hcursors hsession
  obtain rfl : u' = u := hsession
  cases hanswer with
  | ok ha => exact ⟨.ok ha, hcursors, rfl⟩
  | error hf => exact ⟨.error hf, hcursors, rfl⟩

/-- A loop goes on on both lines or on neither, since as many tokens are ahead. -/
theorem alike_loop {step : σ → Reading (Reading.Step σ)}
    (h : ∀ a, p.Alike n (step a) (step a) Eq) (a : σ) :
    p.Alike n (Reading.loop step a) (Reading.loop step a) Eq := by
  intro c c' s hc
  induction hlength : c.pending.length using Nat.strongRecOn generalizing a c c' s with
  | ind length ih =>
    subst hlength
    obtain ⟨hanswer, hcursors, hsession⟩ := h a c c' s hc
    change p.Runs n Eq (Reading.loopFrom step a c s) (Reading.loopFrom step a c' s)
    rw [Reading.loopFrom, Reading.loopFrom]
    rcases hr : (step a).run c s with ⟨⟨x, d⟩, u⟩
    rcases hr' : (step a).run c' s with ⟨⟨x', d'⟩, u'⟩
    rw [hr, hr'] at hanswer hcursors hsession
    obtain rfl : u' = u := hsession
    cases hanswer with
    | error hf => exact ⟨.error hf, hcursors, rfl⟩
    | @ok b b' hb =>
      subst hb
      cases b with
      | done b => exact ⟨.ok rfl, hcursors, rfl⟩
      | next b =>
        dsimp only
        rw [← hcursors.pending.length_eq, ← hc.pending.length_eq]
        by_cases hlt : d.pending.length < c.pending.length
        · rw [if_pos hlt, if_pos hlt]
          exact ih _ hlt b d d' u' hcursors rfl
        · rw [if_neg hlt, if_neg hlt]
          exact ⟨.ok rfl, hcursors, rfl⟩

/-! ## The session -/

theorem alike_session : p.Alike n Reading.session Reading.session Eq :=
  alike_of_still (g := id) (fun _ _ => rfl) (fun _ _ => rfl) fun _ => .ok rfl

theorem alike_change (f : Session → Session) :
    p.Alike n (Reading.change f) (Reading.change f) Eq :=
  alike_of_still (g := f) (fun _ _ => rfl) (fun _ _ => rfl) fun _ => .ok rfl

/-- What follows a look at the session starts from the session that was seen. -/
theorem alike_session_bind {f f' : Session → Reading α} (h : ∀ s, p.Alike n (f s) (f' s) R) :
    p.Alike n (Reading.session >>= f) (Reading.session >>= f') R :=
  alike_session.bind fun s _ heq => heq ▸ h s

/-! ## Actions -/

end Pairing

namespace Action

variable {α β : Type}

/-- Where an action fails, the failure has no place. -/
def Unplaced (a : Action α) : Prop :=
  ∀ s f, (a.run.run s).1 = .error f → f.span = none

theorem unplaced_of_ok {a : Action α} {answer : Session → α} {after : Session → Session}
    (h : ∀ s, a.run.run s = (.ok (answer s), after s)) : Unplaced a := by
  intro s f hf
  rw [h] at hf
  cases hf

theorem unplaced_pure (x : α) : Unplaced (pure x : Action α) :=
  unplaced_of_ok fun _ => rfl

theorem unplaced_get : Unplaced (get : Action Session) :=
  unplaced_of_ok fun _ => rfl

theorem unplaced_set (s : Session) : Unplaced (set s : Action PUnit) :=
  unplaced_of_ok fun _ => rfl

theorem unplaced_throw {f : Failure} (h : f.span = none) : Unplaced (throw f : Action α) := by
  intro s f' hf
  cases hf
  exact h

theorem unplaced_raise (fault : Fault) : Unplaced (raise fault : Action α) :=
  unplaced_throw rfl

theorem unplaced_bind {a : Action α} {f : α → Action β} (h : Unplaced a)
    (hf : ∀ x, Unplaced (f x)) : Unplaced (a >>= f) := by
  intro s e he
  rw [run_bind] at he
  rcases hr : a.run.run s with ⟨e' | x, s'⟩
  · rw [hr] at he
    cases he
    exact h s e (by rw [hr])
  · rw [hr] at he
    exact hf x s' e he

theorem unplaced_ite {q : Prop} [Decidable q] {a b : Action α} (ha : Unplaced a)
    (hb : Unplaced b) : Unplaced (if q then a else b) := by
  split <;> assumption

/-- The failure that is dealt with has no place either. -/
theorem unplaced_tryCatch {a : Action α} {handle : Failure → Action α} (h : Unplaced a)
    (hh : ∀ f, f.span = none → Unplaced (handle f)) :
    Unplaced (tryCatch a handle : Action α) := by
  intro s e he
  rw [run_tryCatch] at he
  rcases hr : a.run.run s with ⟨f | x, s'⟩
  · rw [hr] at he
    exact hh f (h s f (by rw [hr])) s' e he
  · rw [hr] at he
    cases he

theorem unplaced_print (text : String) : Unplaced (print text) := by
  unfold print
  refine unplaced_bind unplaced_get fun s => ?_
  split
  · exact unplaced_set _
  · exact unplaced_raise _

theorem unplaced_printError (text : String) : Unplaced (printError text) := by
  unfold printError
  refine unplaced_bind unplaced_get fun s => ?_
  split
  · exact unplaced_set _
  · exact unplaced_raise _

theorem unplaced_note (text : String) : Unplaced (note text) := by
  unfold note
  refine unplaced_bind unplaced_get fun s => ?_
  exact unplaced_ite (unplaced_print _) (unplaced_pure _)

theorem unplaced_activeDriver : Unplaced activeDriver := by
  unfold activeDriver
  refine unplaced_bind unplaced_get fun s => ?_
  split
  · exact unplaced_pure _
  · exact unplaced_raise _

/-- What a driver refuses has no place of its own. -/
theorem unplaced_drive (call : Call α) : Unplaced (drive call) := by
  unfold drive
  refine unplaced_bind unplaced_get fun s => ?_
  split
  · exact unplaced_raise _
  · split
    · exact unplaced_raise _
    · exact unplaced_bind (unplaced_set _) fun _ => unplaced_pure _
    · exact unplaced_bind (unplaced_set _) fun _ => unplaced_raise _

theorem unplaced_enter (object : Object) : Unplaced (enter object) :=
  unplaced_of_ok fun _ => rfl

end Action

namespace Pairing

variable {α : Type} {p : Pairing} {n : Nat} {a : Action α} {t t' : Token} {c c' : Cursor}

/-- An action is no matter of the line. -/
theorem alike_liftM (h : Action.Unplaced a) :
    p.Alike n (liftM a : Reading α) (liftM a) Eq := by
  intro c c' s hc
  rw [Reading.run_liftM, Reading.run_liftM]
  refine ⟨?_, hc, rfl⟩
  rcases hr : a.run.run s with ⟨f | x, u⟩
  · have hspan := h s f (by rw [hr])
    exact .error ⟨rfl, by rw [hspan]; exact .none⟩
  · exact .ok rfl

/-- An action whose failures get the places of a pair of tokens. -/
theorem alike_atSpan {sp sp' : Span} (h : Action.Unplaced a) (hsp : p.Spans sp sp') :
    p.Alike n (liftM (a.atSpan sp) : Reading α) (liftM (a.atSpan sp')) Eq := by
  intro c c' s hc
  rw [Reading.run_liftM, Reading.run_liftM, Action.run_atSpan, Action.run_atSpan]
  rcases hr : a.run.run s with ⟨f | x, u⟩
  · have hspan := h s f (by rw [hr])
    refine ⟨.error ⟨rfl, ?_⟩, hc, rfl⟩
    rw [Failure.atSpan, Failure.atSpan, hspan]
    exact .some hsp
  · exact ⟨.ok rfl, hc, rfl⟩

/-! ## The tokens ahead -/

theorem Cursors.current (h : p.Cursors n c c') : p.Pairs c.current c'.current := by
  rcases c with ⟨line, ts⟩
  rcases c' with ⟨line', ts'⟩
  obtain ⟨rfl, rfl, hpending, -⟩ := h
  cases hpending with
  | nil => exact p.finish
  | cons ht _ => exact ht

theorem Cursors.advance (h : p.Cursors n c c') : p.Cursors n c.advance c'.advance := by
  rcases c with ⟨line, ts⟩
  rcases c' with ⟨line', ts'⟩
  refine ⟨h.line, h.line', ?_, Nat.le_trans (Cursor.length_advance_le _) h.bound⟩
  cases h.pending with
  | nil => exact .nil
  | cons _ hrest => exact hrest

theorem alike_current : p.Alike n Reading.current Reading.current p.Pairs :=
  fun _ _ _ hc => ⟨.ok hc.current, hc, rfl⟩

theorem alike_here : p.Alike n Reading.here Reading.here p.Spans :=
  fun _ _ _ hc => ⟨.ok (.of_pairs hc.current), hc, rfl⟩

theorem alike_consume : p.Alike n Reading.consume Reading.consume p.Pairs :=
  fun _ _ _ hc => ⟨.ok hc.current, hc.advance, rfl⟩

theorem alike_skip (kind : TokenKind) :
    p.Alike n (Reading.skip kind) (Reading.skip kind) Eq := by
  intro c c' s hc
  rw [Reading.run_skip, Reading.run_skip, p.kind_eq hc.current]
  split
  · exact ⟨.ok rfl, hc.advance, rfl⟩
  · exact ⟨.ok rfl, hc, rfl⟩

theorem alike_require {kind : TokenKind} (fault : Fault) (hk : kind ≠ .invalid) :
    p.Alike n (Reading.require kind fault) (Reading.require kind fault) p.Pairs := by
  intro c c' s hc
  rw [Reading.run_require fault hk, Reading.run_require fault hk, p.kind_eq hc.current]
  split
  · exact ⟨.ok hc.current, hc.advance, rfl⟩
  · exact ⟨.of_failure (.of_pairs hc.current), hc, rfl⟩

theorem alike_closeArguments : p.Alike n Reading.closeArguments Reading.closeArguments Eq :=
  (alike_require _ (by decide)).bind fun _ _ _ => alike_pure rfl

theorem alike_comma : p.Alike n Reading.comma Reading.comma Eq :=
  (alike_require _ (by decide)).bind fun _ _ _ => alike_pure rfl

theorem alike_openArguments (keyword : String) :
    p.Alike n (Reading.openArguments keyword) (Reading.openArguments keyword) Eq := by
  intro c c' s hc
  rw [Reading.run_openArguments, Reading.run_openArguments, p.kind_eq hc.current]
  split
  · exact ⟨.ok rfl, hc.advance, rfl⟩
  · exact ⟨.of_failure (.of_pairs hc.current), hc, rfl⟩

theorem alike_requireDriver (keyword : String) {sp sp' : Span} (h : p.Spans sp sp') :
    p.Alike n (Reading.requireDriver keyword sp) (Reading.requireDriver keyword sp') Eq := by
  intro c c' s hc
  rw [Reading.run_requireDriver, Reading.run_requireDriver]
  split
  · exact ⟨.of_failure h, hc, rfl⟩
  · exact ⟨.ok rfl, hc, rfl⟩

theorem alike_constantToken (what : String) :
    p.Alike n (Reading.constantToken what) (Reading.constantToken what) p.Pairs := by
  intro c c' s hc
  rw [Reading.run_constantToken, Reading.run_constantToken, p.kind_eq hc.current]
  split
  · exact ⟨.ok hc.current, hc.advance, rfl⟩
  · exact ⟨.of_failure (.of_pairs hc.current), hc, rfl⟩

/-- The same value, with a pair of tokens. -/
def With (p : Pairing) (x x' : α × Token) : Prop :=
  x.1 = x'.1 ∧ p.Pairs x.2 x'.2

theorem alike_numberArgument (type : IntegerType) (what : String) :
    p.Alike n (Reading.numberArgument type what) (Reading.numberArgument type what) p.With := by
  unfold Reading.numberArgument
  refine (alike_constantToken what).bind fun t t' ht => ?_
  rw [p.text_eq ht]
  exact (alike_lift (answers_located ht _)).bind fun _ _ hn => alike_pure ⟨hn, ht⟩

end Pairing

end DriverBench
