import DriverBench.Proofs.Expression.Alike
import DriverBench.Proofs.Expression.Settled
/-!
# Evaluation depends on the tokens

Two things are known about evaluation by now: it cannot tell two lines apart whose tokens are alike
(`Pairing.alike_evaluate`), and it is settled by the tokens that it takes
(`Reading.closes_evaluate`). Put together they say that neither the blanks of the line nor what
stands behind the expression makes a difference: only the tokens count, and of these only the ones
that are taken, unless it fails.
-/

namespace DriverBench

open Device Number Simulator

/-- Tokens of the same kind and text, wherever they stand. -/
def Token.Matches (t t' : Token) : Prop :=
  t.kind = t'.kind ∧ t.text = t'.text

instance (t t' : Token) : Decidable (t.Matches t') := inferInstanceAs (Decidable (_ ∧ _))

namespace Cursor

/-- The tokens ahead, with the end of the line. -/
def tokens (c : Cursor) : List Token :=
  c.pending ++ [c.finish]

theorem tokens_ofLine (line : String) : (ofLine line).tokens = Token.tokenize line := rfl

end Cursor

/-- No place on either side, or the places of tokens that stand at the same position of two lists.
-/
def SamePosition (ts ts' : List Token) (sp sp' : Option Span) : Prop :=
  (sp = none ∧ sp' = none) ∨ ∃ (i : Nat) (t t' : Token), ts[i]? = some t ∧ ts'[i]? = some t' ∧
    sp = some t.span ∧ sp' = some t'.span

namespace Pairing

variable {c c' : Cursor}

/-- The tokens of two lines, paired by their positions ahead of two cursors. -/
def ofPositions (c c' : Cursor) (h : List.Forall₂ Token.Matches c.tokens c'.tokens) : Pairing where
  line := c.line
  line' := c'.line
  Pairs t t' := t.Matches t' ∧ ∃ i : Nat, c.tokens[i]? = some t ∧ c'.tokens[i]? = some t'
  kind_eq ht := ht.1.1.symm
  text_eq ht := ht.1.2.symm
  finish := by
    have hlength : c.pending.length = c'.pending.length := by
      simpa [Cursor.tokens] using h.length_eq
    refine ⟨⟨rfl, rfl⟩, c.pending.length, ?_, ?_⟩
    · exact List.getElem?_concat_length
    · rw [hlength]
      exact List.getElem?_concat_length

theorem cursors_ofPositions (h : List.Forall₂ Token.Matches c.tokens c'.tokens) :
    (ofPositions c c' h).Cursors c.pending.length c c' := by
  obtain ⟨hlength, hget⟩ := List.forall₂_iff_get.1 h
  have hpending : c.pending.length = c'.pending.length := by
    simpa [Cursor.tokens] using hlength
  refine ⟨rfl, rfl, List.forall₂_iff_get.2 ⟨hpending, fun i hi hi' => ⟨?_, i, ?_, ?_⟩⟩,
    Nat.le_refl _⟩
  · have hmatch := hget i (by simp [Cursor.tokens]; omega) (by simp [Cursor.tokens]; omega)
    simpa [Cursor.tokens, List.getElem_append_left, hi, hi'] using hmatch
  · simp [Cursor.tokens, List.getElem?_append_left, hi]
  · simp [Cursor.tokens, List.getElem?_append_left, hi']

/-- The tokens of two lines, paired by what they are. -/
def ofMatches (line line' : String) : Pairing where
  line := line
  line' := line'
  Pairs := Token.Matches
  kind_eq ht := ht.1.symm
  text_eq ht := ht.2.symm
  finish := ⟨rfl, rfl⟩

theorem Failures.samePosition {h : List.Forall₂ Token.Matches c.tokens c'.tokens} {f f' : Failure}
    (hf : (ofPositions c c' h).Failures f f') : SamePosition c.tokens c'.tokens f.span f'.span := by
  obtain ⟨-, hspan⟩ := hf
  generalize f.span = sp, f'.span = sp' at hspan
  cases hspan with
  | none => exact .inl ⟨rfl, rfl⟩
  | some hspans =>
    obtain ⟨t, t', ⟨-, i, ht, ht'⟩, rfl, rfl⟩ := hspans
    exact .inr ⟨i, t, t', ht, ht', rfl, rfl⟩

end Pairing

namespace Reading

variable {c c' d : Cursor} {s t : Session} {e : Entity} {taken taken' later : List Token}

/-- Tokens that match those that were taken are taken in their turn, on whatever line they stand and
whatever stands behind them. -/
theorem gives_evaluate_of_matches (h : Gives evaluate c s e d t)
    (hc : c.pending = taken ++ d.pending) (hc' : c'.pending = taken' ++ later)
    (hmatch : List.Forall₂ Token.Matches taken taken') :
    Gives evaluate c' s e ⟨c'.line, later⟩ t := by
  obtain ⟨-, taken₀, hpending, -, hsame⟩ := closes_evaluate _ _ _ _ _ (Nat.le_refl _) h
  obtain rfl : taken₀ = taken := List.append_cancel_right (hpending.symm.trans hc)
  -- First the tokens behind, then those that are taken.
  have hbehind : Gives evaluate ⟨c'.line, taken₀ ++ later⟩ s e ⟨c'.line, later⟩ t :=
    hsame [] d.pending later c'.line rfl (Nat.zero_le _)
  have hcursors : (Pairing.ofMatches c'.line c'.line).Cursors (taken₀ ++ later).length
      ⟨c'.line, taken₀ ++ later⟩ c' := by
    refine ⟨rfl, rfl, ?_, Nat.le_refl _⟩
    rw [hc']
    exact List.rel_append hmatch (List.forall₂_same.2 fun _ _ => ⟨rfl, rfl⟩)
  obtain ⟨hanswer, hends, hsession⟩ := Pairing.alike_evaluate _ _ s hcursors
  unfold Gives at hbehind
  rw [hbehind] at hanswer hends hsession
  rcases hr : evaluate.run c' s with ⟨⟨x, d'⟩, t'⟩
  rw [hr] at hanswer hends hsession
  cases hanswer with
  | ok he =>
    obtain ⟨hline, taken₂, hpending', -, -⟩ := closes_evaluate _ _ _ _ _ (Nat.le_refl _) hr
    have hlength : d'.pending.length = later.length := hends.pending.length_eq.symm
    obtain ⟨-, hlater⟩ := List.append_inj' (hpending'.symm.trans hc') hlength
    subst he hsession
    rw [← hline, ← hlater]
    exact hr

/-- **Evaluation depends on the tokens alone.** Where the tokens ahead of two cursors agree one by
one in kind and text, it gives the same object, leads to the same session and takes as many tokens;
or it fails with the same fault, in the same session, at the same token of either line or at none.
And what it gives is settled by the tokens that it has taken: where these stand, whatever stands
behind them, it gives the same and takes no more. -/
theorem evaluate_depends_on_tokens (c c' : Cursor) (s : Session)
    (h : List.Forall₂ Token.Matches c.tokens c'.tokens) :
    (∀ e d t, evaluate.run c s = ((.ok e, d), t) → ∃ taken taken' d',
      evaluate.run c' s = ((.ok e, d'), t) ∧ c.pending = taken ++ d.pending ∧
      c'.pending = taken' ++ d'.pending ∧ taken'.length = taken.length) ∧
    (∀ f d t, evaluate.run c s = ((.error f, d), t) → ∃ f' d',
      evaluate.run c' s = ((.error f', d'), t) ∧ f'.fault = f.fault ∧
      SamePosition c.tokens c'.tokens f.span f'.span) ∧
    ∀ e d t, evaluate.run c s = ((.ok e, d), t) → ∃ taken, c.pending = taken ++ d.pending ∧
      ∀ (c'' : Cursor) (taken'' later : List Token), c''.pending = taken'' ++ later →
        List.Forall₂ Token.Matches taken taken'' →
        evaluate.run c'' s = ((.ok e, ⟨c''.line, later⟩), t) := by
  have hruns := Pairing.alike_evaluate c c' s (Pairing.cursors_ofPositions h)
  refine ⟨fun e d t hr => ?_, fun f d t hr => ?_, fun e d t hr => ?_⟩
  · obtain ⟨hanswer, hends, hsession⟩ := hruns
    rcases hr' : evaluate.run c' s with ⟨⟨x, d'⟩, t'⟩
    rw [hr, hr'] at hanswer hends hsession
    cases hanswer with
    | ok he =>
      subst he hsession
      obtain ⟨-, taken, hpending, -, -⟩ := closes_evaluate _ _ _ _ _ (Nat.le_refl _) hr
      obtain ⟨-, taken', hpending', -, -⟩ := closes_evaluate _ _ _ _ _ (Nat.le_refl _) hr'
      refine ⟨taken, taken', d', rfl, hpending, hpending', ?_⟩
      have hwhole := (Pairing.cursors_ofPositions h).pending.length_eq
      have hrest : d.pending.length = d'.pending.length := hends.pending.length_eq
      rw [hpending, hpending', List.length_append, List.length_append] at hwhole
      omega
  · obtain ⟨hanswer, -, hsession⟩ := hruns
    rcases hr' : evaluate.run c' s with ⟨⟨x, d'⟩, t'⟩
    rw [hr, hr'] at hanswer hsession
    cases hanswer with
    | error hf =>
      subst hsession
      exact ⟨_, d', rfl, hf.fault, hf.samePosition⟩
  · obtain ⟨-, taken, hpending, -, -⟩ := closes_evaluate _ _ _ _ _ (Nat.le_refl _) hr
    exact ⟨taken, hpending, fun c'' taken'' later hc'' hmatch =>
      gives_evaluate_of_matches hr hpending hc'' hmatch⟩

/-- A session with a driver and without images. -/
def equipped : Session :=
  (Session.setDriver { codec := ⟨fun _ => false, fun _ _ => .ok none, fun _ _ _ _ => .ok none⟩ }).2

/-- Blanks inside the parentheses make no difference to a buffer, and an open quote behind it makes
none either; with a constant out of range it fails at that constant, wherever it stands. -/
theorem evaluate_buffer_of_blanks :
    List.Forall₂ Token.Matches (Token.tokenize "buffer( uchar(1, 2) , 1 )")
        (Token.tokenize "buffer(uchar(1,2),1)") ∧
      List.Forall₂ Token.Matches (Token.tokenize "buffer( uchar(1, 256) , 1 )")
        (Token.tokenize "buffer(uchar(1,256),1)") ∧
      (∃ e d d' t, evaluate.run (Cursor.ofLine "buffer( uchar(1, 2) , 1 )") equipped =
          ((.ok e, d), t) ∧
        evaluate.run (Cursor.ofLine "buffer(uchar(1,2),1)") equipped = ((.ok e, d'), t) ∧
        evaluate.run (Cursor.ofLine "buffer(uchar(1,2),1) \"") equipped =
          ((.ok e, ⟨"buffer(uchar(1,2),1) \"", [⟨.invalid, 21, "\""⟩]⟩), t)) ∧
      ∃ f f' d d' t, evaluate.run (Cursor.ofLine "buffer( uchar(1, 256) , 1 )") equipped =
          ((.error f, d), t) ∧
        evaluate.run (Cursor.ofLine "buffer(uchar(1,256),1)") equipped = ((.error f', d'), t) ∧
        f'.fault = f.fault ∧ f.span = some ⟨17, 20⟩ ∧ f'.span = some ⟨15, 18⟩ := by
  have hmatch : List.Forall₂ Token.Matches (Token.tokenize "buffer( uchar(1, 2) , 1 )")
      (Token.tokenize "buffer(uchar(1,2),1)") := by decide +kernel
  have hmatch' : List.Forall₂ Token.Matches (Token.tokenize "buffer( uchar(1, 256) , 1 )")
      (Token.tokenize "buffer(uchar(1,256),1)") := by decide +kernel
  refine ⟨hmatch, hmatch', ?_, ?_⟩
  · have hok : (evaluate.run (Cursor.ofLine "buffer( uchar(1, 2) , 1 )") equipped).1.1.isOk =
        true := by decide +kernel
    have hpending : (evaluate.run (Cursor.ofLine "buffer( uchar(1, 2) , 1 )") equipped).1.2.pending
        = [] := by decide +kernel
    rcases hr : evaluate.run (Cursor.ofLine "buffer( uchar(1, 2) , 1 )") equipped with
      ⟨⟨f | e, d⟩, t⟩
    · rw [hr] at hok
      cases hok
    · obtain ⟨hsame, -, hsettled⟩ := evaluate_depends_on_tokens
        (Cursor.ofLine "buffer( uchar(1, 2) , 1 )") (Cursor.ofLine "buffer(uchar(1,2),1)") equipped
        (by rwa [Cursor.tokens_ofLine, Cursor.tokens_ofLine])
      obtain ⟨-, -, d', hr', -⟩ := hsame e d t hr
      obtain ⟨taken, htaken, hlater⟩ := hsettled e d t hr
      rw [hr] at hpending
      obtain rfl : (Cursor.ofLine "buffer( uchar(1, 2) , 1 )").pending = taken := by
        rw [htaken, hpending, List.append_nil]
      refine ⟨e, d, d', t, rfl, hr', hlater (Cursor.ofLine "buffer(uchar(1,2),1) \"")
        (Cursor.ofLine "buffer(uchar(1,2),1)").pending _ ?_ ?_⟩ <;> decide +kernel
  · have hfault : (evaluate.run (Cursor.ofLine "buffer( uchar(1, 256) , 1 )") equipped).1.1 =
        .error ((Fault.constant (.outOfRange "256" "uchar")).atSpan ⟨17, 20⟩) := by decide +kernel
    have hfault' : (evaluate.run (Cursor.ofLine "buffer(uchar(1,256),1)") equipped).1.1 =
        .error ((Fault.constant (.outOfRange "256" "uchar")).atSpan ⟨15, 18⟩) := by decide +kernel
    rcases hr : evaluate.run (Cursor.ofLine "buffer( uchar(1, 256) , 1 )") equipped with ⟨⟨x, d⟩, t⟩
    rw [hr] at hfault
    obtain rfl : x = _ := hfault
    obtain ⟨f', d', hr', hsame, -⟩ := (evaluate_depends_on_tokens
      (Cursor.ofLine "buffer( uchar(1, 256) , 1 )") (Cursor.ofLine "buffer(uchar(1,256),1)")
      equipped
      (by rwa [Cursor.tokens_ofLine, Cursor.tokens_ofLine])).2.1 _ d t hr
    rw [hr'] at hfault'
    cases hfault'
    exact ⟨_, _, d, d', t, rfl, hr', hsame, rfl, rfl⟩

end Reading

end DriverBench
