import Mathlib.Algebra.Group.Nat.Defs
import DriverBench.Proofs.Command.Spares
import DriverBench.Proofs.Expression.Grammar
import DriverBench.Proofs.Expression.Settled
/-!
# What stands on the lines of `run` and `bind`

Both lines name a kernel and list objects for it. Here it is said what such a line consists of: the
kernel, the numbers, and the objects, each of them what the expression at its place denotes once
those in front of it have been evaluated (`Objects`). What the two commands have read before they
do anything is then known to be just what stands on the line (`LaunchLine.of_gives`,
`BindLine.of_gives`).
-/

namespace DriverBench

open Device Number Simulator

namespace Number.IntegerType

/-- What is read as a constant of a type is in the range of the type. -/
theorem in_range_of_read {type : IntegerType} {text : String} {v : Int}
    (h : type.read text = .ok v) : type.least ≤ v ∧ v ≤ type.largest := by
  unfold read at h
  cases hlength : checkLength text with
  | error e =>
    rw [hlength] at h
    cases h
  | ok u =>
    rw [hlength] at h
    cases hvalue : readInteger? text.toList with
    | none =>
      simp only [hvalue] at h
      cases h
    | some w =>
      simp only [hvalue] at h
      change (if type.least ≤ w ∧ w ≤ type.largest then Except.ok w
        else Except.error _ : Except ConstantError Int) = _ at h
      split at h
      · next hrange =>
        obtain rfl := Except.ok.inj h
        exact hrange
      · cases h

/-- A number of a type without negative values has no more bits than the type. -/
theorem lt_of_readNatural {type : IntegerType} {text : String} {n : Nat}
    (hsigned : type.isSigned = false) (h : type.readNatural text = .ok n) :
    n < 2 ^ (8 * type.width) := by
  unfold readNatural at h
  cases hread : type.read text with
  | error e =>
    rw [hread] at h
    cases h
  | ok v =>
    rw [hread] at h
    obtain rfl := Except.ok.inj h
    have hle := (in_range_of_read hread).2
    rw [largest, hsigned] at hle
    have hpos : 0 < 2 ^ (8 * type.width) := Nat.two_pow_pos _
    simp only [Nat.pow_eq, Bool.false_eq_true, if_false] at hle
    omega

end Number.IntegerType

namespace Statement

open Reading

/-! ## The parts of a line -/

/-- A comma. -/
def IsComma (ts : List Token) : Prop :=
  ∃ t, t.kind = .comma ∧ ts = [t]

/-- A comma, or nothing. -/
def IsOptionalComma (ts : List Token) : Prop :=
  ts = [] ∨ IsComma ts

/-- Sizes with commas between them. -/
inductive Sizes : List Token → List Nat → Prop
  | last {t : Token} {n : Nat} : IsSize t n → Sizes [t] [n]
  | more {t comma : Token} {n : Nat} {ts : List Token} {ns : List Nat} : IsSize t n →
      comma.kind = .comma → Sizes ts ns → Sizes (t :: comma :: ts) (n :: ns)

/-- A work size: not too many sizes, in parentheses. -/
inductive IsWorkSize : List Token → List Nat → Prop
  | mk {opening closing : Token} {ts : List Token} {ns : List Nat} : opening.kind = .openParen →
      Sizes ts ns → closing.kind = .closeParen → ns.length ≤ dimensionLimit →
      IsWorkSize (opening :: (ts ++ [closing])) ns

/-- A local size that goes with a global one, behind a comma, or nothing. -/
inductive IsLocalSize (globalSize : List Nat) : List Token → Option (List Nat) → Prop
  | absent : IsLocalSize globalSize [] none
  | given {comma : Token} {ts : List Token} {ns : List Nat} : comma.kind = .comma →
      IsWorkSize ts ns → ns.length = globalSize.length →
      IsLocalSize globalSize (comma :: ts) (some ns)

/-- **Objects one after the other**, each with its first token. What stands in front of an object is
of one form; the object is what the expression behind that denotes, evaluated in the session that
the earlier ones have led to. -/
inductive Objects (mark : List Token → Prop) :
    Cursor → Session → List (Token × Entity) → Cursor → Session → Prop
  | nil (c : Cursor) (s : Session) : Objects mark c s [] c s
  | cons {line : String} {before ahead : List Token} {t : Token} {e : Entity}
      {values : List (Token × Entity)} {c c' : Cursor} {s s₁ s' : Session} : mark before →
      t.kind ≠ .constant → Gives evaluateKept ⟨line, t :: ahead⟩ s e c s₁ →
      Objects mark c s₁ values c' s' →
      Objects mark ⟨line, before ++ t :: ahead⟩ s ((t, e) :: values) c' s'

/-! ## The lines of both commands -/

/-- **The line of `bind`** behind the name of the command: a kernel, a number and at least one
object. Each of these may have a comma in front of it, and the last one behind it too. -/
inductive BindLine (c : Cursor) (s : Session) : BindPlan → Session → Prop
  | mk {e : Entity} {kernel : Handle} {name line : String} {between ahead : List Token}
      {number : Token} {first : Nat} {values : List (Token × Entity)} {last : List Token}
      {c' : Cursor} {s₁ s' : Session} :
      Gives evaluateKept c s e ⟨line, between ++ number :: ahead⟩ s₁ →
      e.object = .kernel kernel name → IsOptionalComma between → number.kind = .constant →
      IntegerType.uint.readNatural number.text = .ok first →
      Objects IsOptionalComma ⟨line, ahead⟩ s₁ values ⟨line, last ++ c'.pending⟩ s' →
      IsOptionalComma last → c'.current.kind = .finish → values ≠ [] →
      BindLine c s { kernel, first, values } s'

/-- **The line of `run`** behind the name of the command: a kernel, and in parentheses a global
size, perhaps a local size, and objects, each behind a comma. Of what comes behind that the line is
only warned. -/
inductive LaunchLine (c : Cursor) (s : Session) : LaunchPlan → Session → Prop
  | mk {e : Entity} {kernel : Handle} {name line : String} {opening closing : Token}
      {globalTokens localTokens ahead trailing : List Token} {globalSize : List Nat}
      {localSize : Option (List Nat)} {values : List (Token × Entity)} {s₁ s₂ s' : Session} :
      Gives evaluateKept c s e ⟨line, opening :: (globalTokens ++ (localTokens ++ ahead))⟩ s₁ →
      e.object = .kernel kernel name → opening.kind = .openParen →
      IsWorkSize globalTokens globalSize → IsLocalSize globalSize localTokens localSize →
      Objects IsComma ⟨line, ahead⟩ s₁ values ⟨line, closing :: trailing⟩ s₂ →
      closing.kind = .closeParen → s₂.Talks s' →
      LaunchLine c s ⟨c.current, kernel, globalSize, localSize, values⟩ s'

/-! ## Sizes -/

section Inversion

variable {c c' : Cursor} {s s' : Session}

/-- Sizes are read one by one, as long as commas are behind them. -/
theorem sizes_of_loop {read sizes : List Nat}
    (h : Gives (loop workDimension read) c s sizes c' s') :
    ∃ ts ns, c.pending = ts ++ c'.pending ∧ c'.line = c.line ∧ s' = s ∧ Sizes ts ns ∧
      sizes = read ++ ns := by
  have hstep : ∀ {read : List Nat} {next : Step (List Nat)} {c c' : Cursor} {s s' : Session},
      Gives (workDimension read) c s next c' s' →
      ∃ t n, IsSize t n ∧ s' = s ∧ c'.line = c.line ∧
        ((∃ comma : Token, comma.kind = .comma ∧ c.pending = t :: comma :: c'.pending ∧
            next = .next (read ++ [n])) ∨
          c.pending = t :: c'.pending ∧ next = .done (read ++ [n])) := by
    intro read next c c' s s' h
    obtain ⟨⟨n, t⟩, c₁, s₁, hsize, hmark⟩ := h.exists_of_bind
    obtain ⟨more, c₂, s₂, hcomma, hend⟩ := hmark.exists_of_bind
    obtain ⟨rest, hkind, hread, hpending, rfl, rfl⟩ := hsize.of_numberArgument
    cases more with
    | true =>
      obtain ⟨comma, rest', hkind', hrest, rfl, rfl⟩ := hcomma.of_skip (by decide)
      cases hend
      exact ⟨t, n, ⟨hkind, hread⟩, rfl, rfl,
        .inl ⟨comma, hkind', by rw [hpending, ← hrest], rfl⟩⟩
    | false =>
      obtain ⟨rfl, rfl⟩ := hcomma.of_not_skip
      cases hend
      exact ⟨t, n, ⟨hkind, hread⟩, rfl, rfl, .inr ⟨hpending, rfl⟩⟩
  refine h.of_loop_rec (motive := fun read c s => ∃ ts ns, c.pending = ts ++ c'.pending ∧
    c'.line = c.line ∧ s' = s ∧ Sizes ts ns ∧ sizes = read ++ ns) (fun h => ?_) (fun h => ?_)
    fun h hrest => ?_
  · obtain ⟨t, n, -, -, -, ⟨comma, -, hpending, -⟩ | ⟨-, hnext⟩⟩ := hstep h
    · rw [hpending, List.length_cons, List.length_cons]
      omega
    · cases hnext
  · obtain ⟨t, n, hsize, hs, hline, ⟨comma, -, -, hnext⟩ | ⟨hpending, hnext⟩⟩ := hstep h
    · cases hnext
    · cases hnext
      exact ⟨[t], [n], hpending, hline, hs, .last hsize, rfl⟩
  · obtain ⟨t, n, hsize, rfl, hline, ⟨comma, hkind, hpending, hnext⟩ | ⟨-, hnext⟩⟩ := hstep h
    · cases hnext
      obtain ⟨ts, ns, hts, hline', hs, hsizes, rfl⟩ := hrest
      exact ⟨t :: comma :: ts, n :: ns, by rw [hpending, hts]; rfl, hline'.trans hline, hs,
        .more hsize hkind hsizes, List.append_assoc ..⟩
    · cases hnext

/-- **A work size** is what is read as one. -/
theorem isWorkSize_of_gives {sizes : List Nat} (h : Gives workSize c s sizes c' s') :
    ∃ ts, c = ⟨c'.line, ts ++ c'.pending⟩ ∧ s' = s ∧ IsWorkSize ts sizes := by
  obtain ⟨opening, c₁, s₁, hopening, hopened⟩ := h.exists_of_bind
  obtain ⟨ns, c₂, s₂, hloop, hread⟩ := hopened.exists_of_bind
  obtain ⟨closing, c₃, s₃, hclosing, hclosed⟩ := hread.exists_of_bind
  obtain ⟨hfew, hgiven⟩ := hclosed.of_guard
  cases hgiven
  obtain ⟨rest, hopen, hpending, rfl, rfl⟩ := hopening.of_require (by decide) (by decide)
  obtain ⟨ts, ns, hts, hline, rfl, hsizes, rfl⟩ := sizes_of_loop hloop
  obtain ⟨rest', hclose, hpending', rfl, rfl⟩ := hclosing.of_require (by decide) (by decide)
  refine ⟨opening :: (ts ++ [closing]), ?_, rfl, .mk hopen hsizes hclose (Nat.le_of_not_lt hfew)⟩
  rcases c with ⟨line, pending⟩
  obtain rfl : pending = opening :: rest := hpending
  obtain rfl : rest = ts ++ c₂.pending := hts
  obtain rfl : c₂.line = line := hline
  rw [hpending']
  simp

theorem isLocalSize_of_gives {globalSize sizes : List Nat}
    (h : Gives (localSize globalSize) c s sizes c' s') :
    ∃ ts, c = ⟨c'.line, ts ++ c'.pending⟩ ∧ s' = s ∧ IsWorkSize ts sizes ∧
      sizes.length = globalSize.length := by
  obtain ⟨t, c₁, s₁, hcurrent, hbehind⟩ := h.exists_of_bind
  obtain ⟨ns, c₂, s₂, hsize, hread⟩ := hbehind.exists_of_bind
  obtain ⟨hlength, hgiven⟩ := hread.of_guard
  cases hcurrent
  cases hgiven
  obtain ⟨ts, hc, hs, hsizes⟩ := isWorkSize_of_gives hsize
  exact ⟨ts, hc, hs, hsizes, not_not.1 hlength⟩

/-! ## Objects -/

theorem gives_evaluateKept_takes {e : Entity} (h : Gives evaluateKept c s e c' s') :
    c'.line = c.line ∧ c'.pending.length < c.pending.length := by
  have hcloses : Closes c.pending.length evaluateKept :=
    closes_evaluate.bind_still fun e => (still_liftM _).bind fun _ => still_pure e
  obtain ⟨hline, taken, hpending, hlength, -⟩ := hcloses c s e c' s' (Nat.le_refl _) h
  refine ⟨hline, ?_⟩
  rw [hpending, List.length_append]
  omega

theorem Objects.line_eq {mark : List Token → Prop} {values : List (Token × Entity)}
    (h : Objects mark c s values c' s') : c'.line = c.line := by
  induction h with
  | nil => rfl
  | cons _ _ he _ ih => exact ih.trans (gives_evaluateKept_takes he).1

/-- An object that is read for a kernel stands ahead, with a first token that is no constant. -/
theorem gives_kernelValue_inv {t : Token} {e : Entity} (h : Gives kernelValue c s (t, e) c' s') :
    ∃ ahead, c = ⟨c'.line, t :: ahead⟩ ∧ t.kind ≠ .constant ∧
      Gives evaluateKept ⟨c'.line, t :: ahead⟩ s e c' s' := by
  obtain ⟨t', c₁, s₁, hcurrent, hbehind⟩ := h.exists_of_bind
  obtain ⟨hkind, hread⟩ := hbehind.of_guard
  obtain ⟨e', c₂, s₂, he, hgiven⟩ := hread.exists_of_bind
  cases hcurrent
  cases hgiven
  obtain ⟨hline, hlt⟩ := gives_evaluateKept_takes he
  rcases c with ⟨line, _ | ⟨t, ahead⟩⟩
  · cases hlt
  · obtain rfl : c'.line = line := hline
    exact ⟨ahead, rfl, hkind, he⟩

theorem gives_kernelOperand_inv {t : Token} {kernel : Handle}
    (h : Gives kernelOperand c s (t, kernel) c' s') :
    t = c.current ∧ ∃ e name, e.object = .kernel kernel name ∧ Gives evaluateKept c s e c' s' := by
  obtain ⟨t', c₁, s₁, hcurrent, hbehind⟩ := h.exists_of_bind
  obtain ⟨e, c₂, s₂, he, hgiven⟩ := hbehind.exists_of_bind
  cases hcurrent
  cases hkernel : e.object.kernel? with
  | none =>
    rw [hkernel] at hgiven
    cases hgiven
  | some found =>
    rw [hkernel] at hgiven
    cases hgiven
    cases hobject : e.object <;> rw [hobject] at hkernel <;> cases hkernel
    exact ⟨rfl, e, _, hobject, he⟩

/-- A comma that was skipped or was not there. -/
theorem Gives.of_skip_comma {more : Bool} (h : Gives (skip .comma) c s more c' s') :
    ∃ mark, IsOptionalComma mark ∧ c = ⟨c'.line, mark ++ c'.pending⟩ ∧ s' = s := by
  cases more with
  | true =>
    obtain ⟨comma, rest, hkind, hpending, rfl, rfl⟩ := h.of_skip (by decide)
    exact ⟨[comma], .inr ⟨comma, hkind, rfl⟩, congrArg (Cursor.mk c.line) hpending, rfl⟩
  | false =>
    obtain ⟨rfl, rfl⟩ := h.of_not_skip
    exact ⟨[], .inl rfl, rfl, rfl⟩

theorem gives_boundValue_inv {values : List (Token × Entity)}
    {next : Step (List (Token × Entity))} (h : Gives (boundValue values) c s next c' s') :
    ∃ mark, IsOptionalComma mark ∧
      ((c = ⟨c'.line, mark ++ c'.pending⟩ ∧ c'.hasMore = false ∧ next = .done values ∧ s' = s) ∨
        ∃ t e ahead, c = ⟨c'.line, mark ++ t :: ahead⟩ ∧ t.kind ≠ .constant ∧
          Gives evaluateKept ⟨c'.line, t :: ahead⟩ s e c' s' ∧
          next = .next (values ++ [(t, e)])) := by
  obtain ⟨more, c₁, s₁, hcomma, hbehind⟩ := h.exists_of_bind
  obtain ⟨ahead, c₂, s₂, hmore, hread⟩ := hbehind.exists_of_bind
  obtain ⟨mark, hoptional, rfl, rfl⟩ := Gives.of_skip_comma hcomma
  have hahead : c₁.hasMore = ahead ∧ c₂ = c₁ ∧ s₂ = s₁ := by
    cases hmore
    exact ⟨rfl, rfl, rfl⟩
  obtain ⟨rfl, rfl, rfl⟩ := hahead
  refine ⟨mark, hoptional, ?_⟩
  cases hhas : c₂.hasMore with
  | false =>
    rw [hhas] at hread
    cases hread
    exact .inl ⟨rfl, hhas, rfl, rfl⟩
  | true =>
    rw [hhas] at hread
    obtain ⟨⟨t, e⟩, c₃, s₃, hvalue, hgiven⟩ := hread.exists_of_bind
    cases hgiven
    obtain ⟨ahead, rfl, hkind, he⟩ := gives_kernelValue_inv hvalue
    exact .inr ⟨t, e, ahead, rfl, hkind, he, rfl⟩

/-- **The objects of `bind`** are those that stand there, to the end of what is valid. -/
theorem objects_of_bindLoop {read values : List (Token × Entity)}
    (h : Gives (loop boundValue read) c s values c' s') :
    ∃ new last, values = read ++ new ∧ IsOptionalComma last ∧ c'.hasMore = false ∧
      Objects IsOptionalComma c s new ⟨c'.line, last ++ c'.pending⟩ s' := by
  refine h.of_loop_rec (motive := fun read c s => ∃ new last, values = read ++ new ∧
    IsOptionalComma last ∧ c'.hasMore = false ∧
      Objects IsOptionalComma c s new ⟨c'.line, last ++ c'.pending⟩ s')
    (fun h => ?_) (fun h => ?_) fun h hrest => ?_
  · obtain ⟨mark, -, ⟨-, -, hnext, -⟩ | ⟨t, e, ahead, rfl, -, he, -⟩⟩ := gives_boundValue_inv h
    · cases hnext
    · refine Nat.lt_of_lt_of_le (gives_evaluateKept_takes he).2 ?_
      simp
  · obtain ⟨mark, hmark, ⟨rfl, hmore, hnext, rfl⟩ | ⟨t, e, ahead, -, -, -, hnext⟩⟩ :=
      gives_boundValue_inv h
    · cases hnext
      exact ⟨[], mark, (List.append_nil _).symm, hmark, hmore, .nil _ _⟩
    · cases hnext
  · obtain ⟨mark, hmark, ⟨-, -, hnext, -⟩ | ⟨t, e, ahead, rfl, hkind, he, hnext⟩⟩ :=
      gives_boundValue_inv h
    · cases hnext
    · cases hnext
      obtain ⟨new, last, rfl, hlast, hmore, hobjects⟩ := hrest
      exact ⟨(t, e) :: new, last, List.append_assoc .., hlast, hmore, .cons hmark hkind he hobjects⟩

theorem gives_launchItem_inv {globalSize : List Nat} {found : LaunchRest}
    {next : Step LaunchRest} (h : Gives (launchItem globalSize found) c s next c' s') :
    (∃ closing : Token, closing.kind = .closeParen ∧ c = ⟨c'.line, closing :: c'.pending⟩ ∧
      next = .done found ∧ s' = s) ∨
    ∃ comma : Token, comma.kind = .comma ∧
      ((∃ ts sizes, found.localSize = none ∧ found.values = [] ∧
          c = ⟨c'.line, comma :: (ts ++ c'.pending)⟩ ∧ IsWorkSize ts sizes ∧
          sizes.length = globalSize.length ∧
          next = .next { found with localSize := some sizes } ∧ s' = s) ∨
        ∃ t e ahead, c = ⟨c'.line, comma :: t :: ahead⟩ ∧ t.kind ≠ .constant ∧
          Gives evaluateKept ⟨c'.line, t :: ahead⟩ s e c' s' ∧
          next = .next { found with values := found.values ++ [(t, e)] }) := by
  obtain ⟨close, c₁, s₁, hclose, hopen⟩ := h.exists_of_bind
  cases close with
  | true =>
    obtain ⟨closing, rest, hkind, hpending, rfl, rfl⟩ := hclose.of_skip (by decide)
    cases hopen
    exact .inl ⟨closing, hkind, congrArg (Cursor.mk c.line) hpending, rfl, rfl⟩
  | false =>
    obtain ⟨rfl, rfl⟩ := hclose.of_not_skip
    obtain ⟨comma, c₂, s₂, hcomma, hbehind⟩ := hopen.exists_of_bind
    obtain ⟨rest, hkind, hpending, rfl, rfl⟩ := hcomma.of_require (by decide) (by decide)
    obtain ⟨ahead, c₃, s₃, hahead, hread⟩ := hbehind.exists_of_bind
    obtain ⟨rfl, rfl, rfl⟩ : (found.localSize.isNone && found.values.isEmpty &&
        (Cursor.current ⟨c₁.line, rest⟩).kind == .openParen &&
          (Cursor.next ⟨c₁.line, rest⟩).kind == .constant) = ahead ∧
        c₃ = ⟨c₁.line, rest⟩ ∧ s₃ = s₂ := by
      cases hahead
      exact ⟨rfl, rfl, rfl⟩
    refine .inr ⟨comma, hkind, ?_⟩
    have hc : c₁ = ⟨c₁.line, comma :: rest⟩ := congrArg (Cursor.mk c₁.line) hpending
    split at hread
    · next hlocal =>
      obtain ⟨sizes, c₄, s₄, hsize, hgiven⟩ := hread.exists_of_bind
      cases hgiven
      obtain ⟨ts, hts, rfl, hsizes, hlength⟩ := isLocalSize_of_gives hsize
      simp only [Bool.and_eq_true, Option.isNone_iff_eq_none, List.isEmpty_iff] at hlocal
      refine .inl ⟨ts, sizes, hlocal.1.1.1, hlocal.1.1.2, ?_, hsizes, hlength, rfl, rfl⟩
      obtain ⟨hline, hrest⟩ := Cursor.mk.inj hts
      rw [hc, hline, hrest]
    · obtain ⟨⟨t, e⟩, c₄, s₄, hvalue, hgiven⟩ := hread.exists_of_bind
      cases hgiven
      obtain ⟨ahead, hahead, hconstant, he⟩ := gives_kernelValue_inv hvalue
      refine .inr ⟨t, e, ahead, ?_, hconstant, he, rfl⟩
      obtain ⟨hline, hrest⟩ := Cursor.mk.inj hahead
      rw [hc, hline, hrest]

/-- **The objects of `run`** are those that stand there, to the closing parenthesis. Behind the
first item there is no local size any more. -/
theorem objects_of_launchLoop {globalSize : List Nat} {found rest : LaunchRest}
    (h : Gives (loop (launchItem globalSize) found) c s rest c' s')
    (hfound : found.localSize ≠ none ∨ found.values ≠ []) :
    ∃ new closing, rest = { found with values := found.values ++ new } ∧
      closing.kind = .closeParen ∧
      Objects IsComma c s new ⟨c'.line, closing :: c'.pending⟩ s' := by
  revert hfound
  refine h.of_loop_rec (motive := fun found c s => (found.localSize ≠ none ∨ found.values ≠ []) →
    ∃ new closing, rest = { found with values := found.values ++ new } ∧
      closing.kind = .closeParen ∧ Objects IsComma c s new ⟨c'.line, closing :: c'.pending⟩ s')
    (fun h => ?_) (fun h hfound => ?_) fun h hrest hfound => ?_
  · obtain ⟨closing, -, -, hnext, -⟩ | ⟨comma, -, ⟨ts, sizes, -, -, rfl, -, -, -, -⟩ |
      ⟨t, e, ahead, rfl, -, he, -⟩⟩ := gives_launchItem_inv h
    · cases hnext
    · simp only [List.length_cons, List.length_append]
      omega
    · exact Nat.lt_succ_of_lt (gives_evaluateKept_takes he).2
  · obtain ⟨closing, hkind, rfl, hnext, rfl⟩ | ⟨comma, -, ⟨ts, sizes, -, -, -, -, -, hnext, -⟩ |
      ⟨t, e, ahead, -, -, -, hnext⟩⟩ := gives_launchItem_inv h
    · cases hnext
      exact ⟨[], closing, by rw [List.append_nil], hkind, .nil _ _⟩
    · cases hnext
    · cases hnext
  · obtain ⟨closing, -, -, hnext, -⟩ | ⟨comma, hkind, ⟨ts, sizes, hnone, hnil, -⟩ |
      ⟨t, e, ahead, rfl, hconstant, he, hnext⟩⟩ := gives_launchItem_inv h
    · cases hnext
    · -- A local size is read at the first item only, and that one lies behind.
      rcases hfound with hfound | hfound
      · exact absurd hnone hfound
      · exact absurd hnil hfound
    · cases hnext
      obtain ⟨new, closing, rfl, hclosing, hobjects⟩ := hrest (.inr (by simp))
      refine ⟨(t, e) :: new, closing, by simp, hclosing, ?_⟩
      have hmark : IsComma [comma] := ⟨comma, hkind, rfl⟩
      exact .cons hmark hconstant he hobjects

/-- Behind the global size stand a local size or nothing, and then the objects. -/
theorem exists_of_launchLoop {globalSize : List Nat} {rest : LaunchRest}
    (h : Gives (loop (launchItem globalSize) {}) c s rest c' s') :
    c'.line = c.line ∧ ∃ localTokens ahead closing, c.pending = localTokens ++ ahead ∧
      IsLocalSize globalSize localTokens rest.localSize ∧ closing.kind = .closeParen ∧
      Objects IsComma ⟨c.line, ahead⟩ s rest.values ⟨c.line, closing :: c'.pending⟩ s' := by
  -- Only the first item can be a local size, so the loop is taken apart once by hand.
  obtain hdone | ⟨found, c₁, s₁, hfirst, hloop⟩ := h.of_loop
  · obtain ⟨closing, hkind, rfl, hnext, rfl⟩ | ⟨comma, -, ⟨ts, sizes, -, -, -, -, -, hnext, -⟩ |
      ⟨t, e, ahead, -, -, -, hnext⟩⟩ := gives_launchItem_inv hdone
    · cases hnext
      exact ⟨rfl, [], closing :: c'.pending, closing, rfl, .absent, hkind, .nil _ _⟩
    · cases hnext
    · cases hnext
  · obtain ⟨closing, -, -, hnext, -⟩ | ⟨comma, hkind, ⟨ts, sizes, -, -, rfl, hsizes, hlength, hnext,
      rfl⟩ | ⟨t, e, ahead, rfl, hconstant, he, hnext⟩⟩ := gives_launchItem_inv hfirst
    · cases hnext
    · cases hnext
      have hlt : c₁.pending.length < (comma :: (ts ++ c₁.pending)).length := by
        rw [List.length_cons, List.length_append]
        omega
      obtain ⟨new, closing, rfl, hclosing, hobjects⟩ :=
        objects_of_launchLoop (hloop hlt) (.inl (by simp))
      have hline : c'.line = c₁.line := hobjects.line_eq
      rw [hline] at hobjects
      exact ⟨hline, comma :: ts, c₁.pending, closing, rfl, .given hkind hsizes hlength, hclosing,
        hobjects⟩
    · cases hnext
      obtain ⟨new, closing, rfl, hclosing, hobjects⟩ := objects_of_launchLoop
        (hloop (Nat.lt_succ_of_lt (gives_evaluateKept_takes he).2)) (.inr (by simp))
      have hline : c'.line = c₁.line := hobjects.line_eq
      rw [hline] at hobjects
      have hmark : IsComma [comma] := ⟨comma, hkind, rfl⟩
      exact ⟨hline, [], comma :: t :: ahead, closing, rfl, .absent, hclosing,
        .cons hmark hconstant he hobjects⟩

/-! ## What was read is what stands there -/

/-- **What `bind` has read** is what stands on its line. -/
theorem BindLine.of_gives {plan : BindPlan} (h : Gives bindOperands c s plan c' s') :
    BindLine c s plan s' := by
  obtain ⟨⟨token, kernel⟩, c₁, s₁, hkernel, hbehind⟩ := h.exists_of_bind
  obtain ⟨more, c₂, s₂, hcomma, hnumber⟩ := hbehind.exists_of_bind
  obtain ⟨⟨first, number⟩, c₃, s₃, hfirst, hobjects⟩ := hnumber.exists_of_bind
  obtain ⟨values, c₄, s₄, hloop, hvalid⟩ := hobjects.exists_of_bind
  obtain ⟨_, c₅, s₅, hrefuse, hsome⟩ := hvalid.exists_of_bind
  obtain ⟨-, e, name, hobject, he⟩ := gives_kernelOperand_inv hkernel
  obtain ⟨between, hbetween, rfl, rfl⟩ := Gives.of_skip_comma hcomma
  obtain ⟨ahead, hkind, hread, hpending, rfl, rfl⟩ := hfirst.of_numberArgument
  obtain ⟨new, last, rfl, hlast, hmore, hvalues⟩ := objects_of_bindLoop hloop
  -- The loop also stops in front of what is invalid, but that would have been refused.
  have hfinish : c₄.current.kind = .finish ∧ c₅ = c₄ ∧ s₅ = s₄ := by
    unfold Gives at hrefuse
    rw [run_refuseInvalid] at hrefuse
    split at hrefuse
    · cases hrefuse
    · next hinvalid =>
      cases hrefuse
      simp only [Cursor.hasMore, Bool.and_eq_false_iff, bne_eq_false_iff_eq] at hmore
      exact ⟨hmore.resolve_right hinvalid, rfl, rfl⟩
  obtain ⟨hfinish, rfl, rfl⟩ := hfinish
  split at hsome
  · cases hsome
  · next hempty =>
    cases hsome
    have hline : _ = c₂.line := hvalues.line_eq
    rw [hline] at hvalues
    refine .mk ?_ hobject hbetween hkind hread hvalues hlast hfinish (by simpa using hempty)
    rw [← hpending]
    exact he

/-- **What `run` has read** is what stands on its line. -/
theorem LaunchLine.of_gives {plan : LaunchPlan} (h : Gives launchOperands c s plan c' s') :
    LaunchLine c s plan s' := by
  obtain ⟨⟨token, kernel⟩, c₁, s₁, hkernel, hbehind⟩ := h.exists_of_bind
  obtain ⟨opening, c₂, s₂, hopening, hopened⟩ := hbehind.exists_of_bind
  obtain ⟨globalSize, c₃, s₃, hsize, hrest⟩ := hopened.exists_of_bind
  obtain ⟨rest, c₄, s₄, hloop, hread⟩ := hrest.exists_of_bind
  obtain ⟨_, c₅, s₅, hwarn, hgiven⟩ := hread.exists_of_bind
  cases hgiven
  obtain ⟨rfl, e, name, hobject, he⟩ := gives_kernelOperand_inv hkernel
  obtain ⟨ahead, hopen, hpending, rfl, rfl⟩ := hopening.of_require (by decide) (by decide)
  obtain ⟨ts, hts, rfl, hsizes⟩ := isWorkSize_of_gives hsize
  obtain ⟨hline, localTokens, behind, closing, hlocals, hlocal, hclosing, hvalues⟩ :=
    exists_of_launchLoop hloop
  obtain ⟨hline', hahead⟩ := Cursor.mk.inj hts
  have htalks := hwarn.within (R := Session.Talks) (within_warnTrailing .run)
  rw [← hline'] at hvalues
  refine .mk ?_ hobject hopen hsizes hlocal hvalues hclosing htalks
  rw [← hlocals, ← hahead, ← hpending]
  exact he

end Inversion

end Statement

end DriverBench
