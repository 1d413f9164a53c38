import DriverBench.Proofs.Expression.Recursion
/-!
# The grammar of expressions

An expression is a bound name, an array of constants, or an expression in parentheses. Lines whose
words ask for no other constructor are evaluated by just this grammar: evaluation goes through if
and only if some of the tokens ahead, from the first one on, form an expression. There is one such
beginning at most, so it is the one that has been taken, and the value is what it stands for.

That evaluation takes an expression and nothing else is an induction on the tokens ahead, along the
equations of evaluation; that it takes every expression is an induction on the expression. Inside
both stands the same pair of statements about the constants of an array.
-/

namespace DriverBench

open Device Number Simulator

namespace Expression

/-! ## The grammar -/

/-- Constants of a type with commas between them, and the bytes of their values one after the
other. -/
inductive Constants (type : ElementType) : List Token → List UInt8 → Prop
  | last {t : Token} {bytes : List UInt8} : t.kind = .constant → type.bytesOf t.text = .ok bytes →
      Constants type [t] bytes
  | more {t comma : Token} {ts : List Token} {bytes others : List UInt8} : t.kind = .constant →
      type.bytesOf t.text = .ok bytes → comma.kind = .comma → Constants type ts others →
      Constants type (t :: comma :: ts) (bytes ++ others)

/-- What an expression stands for: what a name is bound to, or an array of a type with its bytes. -/
inductive Meaning where
  | bound (e : Entity)
  | array (type : ElementType) (bytes : List UInt8)

/-- **The expressions** and what they stand for. A bound name is an expression even if it is the
word of a type. -/
inductive Expresses (env : Environment Entity) : List Token → Meaning → Prop
  | name {t : Token} {e : Entity} : t.kind = .word → env.lookup t.text = some e →
      Expresses env [t] (.bound e)
  | array {t opening closing : Token} {ts : List Token} {type : ElementType}
      {bytes : List UInt8} : t.kind = .word → env.lookup t.text = none → type ∈ ElementType.all →
      t.text = type.keyword → opening.kind = .openParen → Constants type ts bytes →
      closing.kind = .closeParen →
      Expresses env (t :: opening :: ts ++ [closing]) (.array type bytes)
  | inside {opening closing : Token} {ts : List Token} {m : Meaning} : opening.kind = .openParen →
      Expresses env ts m → closing.kind = .closeParen →
      Expresses env (opening :: ts ++ [closing]) m

/-- The object that is meant, and the session behind it: an array is a new object. -/
def Meaning.settle (m : Meaning) (s : Session) : Entity × Session :=
  match m with
  | .bound e => (e, s)
  | .array type bytes =>
    (⟨s.entities, .data ⟨bytes, type.label⟩⟩, { s with entities := s.entities + 1 })

/-- The words of the constructors that make anything but arrays. -/
def objectWords : List String :=
  ["file", "clone", "buffer", "image", "program", "binary", "kernel"]

/-- Among some tokens, no word that is not bound asks for an object other than an array. -/
def Plain (env : Environment Entity) (ts : List Token) : Prop :=
  ∀ t ∈ ts, t.kind = .word → env.lookup t.text = none → t.text ∉ objectWords

variable {env : Environment Entity} {type : ElementType} {ts ts' rest rest' : List Token}
  {bytes bytes' : List UInt8} {m m' : Meaning}

theorem Plain.mono (h : Plain env ts) (hsub : ts' ⊆ ts) : Plain env ts' :=
  fun t ht => h t (hsub ht)

/-- No two types are called the same. -/
theorem keyword_inj_of_mem : ∀ type ∈ ElementType.all, ∀ type' ∈ ElementType.all,
    type.keyword = type'.keyword → type = type' := by
  decide

/-! ## One expression at most -/

/-- Constants end at the first closing parenthesis behind them. -/
theorem Constants.unique {closing closing' : Token} (h : Constants type ts bytes)
    (h' : Constants type ts' bytes') (hclosing : closing.kind = .closeParen)
    (hclosing' : closing'.kind = .closeParen)
    (heq : ts ++ closing :: rest = ts' ++ closing' :: rest') :
    ts = ts' ∧ bytes = bytes' ∧ closing = closing' ∧ rest = rest' := by
  induction h generalizing ts' bytes' with
  | last _ hread =>
    cases h' with
    | last _ hread' =>
      obtain ⟨rfl, hrest⟩ := List.cons.inj heq
      obtain ⟨rfl, rfl⟩ := List.cons.inj hrest
      exact ⟨rfl, Except.ok.inj (hread.symm.trans hread'), rfl, rfl⟩
    | more _ _ hcomma _ =>
      obtain ⟨-, hrest⟩ := List.cons.inj heq
      obtain ⟨rfl, -⟩ := List.cons.inj hrest
      cases hclosing.symm.trans hcomma
  | more _ hread hcomma _ ih =>
    cases h' with
    | last _ _ =>
      obtain ⟨-, hrest⟩ := List.cons.inj heq
      obtain ⟨rfl, -⟩ := List.cons.inj hrest
      cases hclosing'.symm.trans hcomma
    | more _ hread' _ hmore =>
      obtain ⟨rfl, hcomma⟩ := List.cons.inj heq
      obtain ⟨rfl, hothers⟩ := List.cons.inj hcomma
      obtain ⟨rfl, rfl, hends⟩ := ih hmore hothers
      exact ⟨rfl, by rw [Except.ok.inj (hread.symm.trans hread')], hends⟩

/-- **At the front of a list of tokens stands one expression at most**, and it stands for one thing.
-/
theorem Expresses.unique (h : Expresses env ts m) (h' : Expresses env ts' m')
    (heq : ts ++ rest = ts' ++ rest') : ts = ts' ∧ m = m' ∧ rest = rest' := by
  induction h generalizing ts' m' rest rest' with
  | name hword he =>
    cases h' with
    | name _ he' =>
      obtain ⟨rfl, hrest⟩ := List.cons.inj heq
      exact ⟨rfl, by rw [Option.some.inj (he.symm.trans he')], hrest⟩
    | array _ hfree _ _ _ _ _ =>
      obtain ⟨rfl, -⟩ := List.cons.inj heq
      cases he.symm.trans hfree
    | inside hopening _ _ =>
      obtain ⟨rfl, -⟩ := List.cons.inj heq
      cases hword.symm.trans hopening
  | array hword hfree htype hkeyword _ hconstants hclosing =>
    cases h' with
    | name _ he =>
      obtain ⟨rfl, -⟩ := List.cons.inj heq
      cases he.symm.trans hfree
    | array _ _ htype' hkeyword' _ hconstants' hclosing' =>
      simp only [List.append_assoc, List.cons_append, List.nil_append] at heq
      obtain ⟨rfl, hopened⟩ := List.cons.inj heq
      obtain ⟨rfl, hconstant⟩ := List.cons.inj hopened
      obtain rfl := keyword_inj_of_mem _ htype _ htype' (hkeyword.symm.trans hkeyword')
      obtain ⟨rfl, rfl, rfl, hrest⟩ := hconstants.unique hconstants' hclosing hclosing' hconstant
      exact ⟨rfl, rfl, hrest⟩
    | inside hopening _ _ =>
      obtain ⟨rfl, -⟩ := List.cons.inj heq
      cases hword.symm.trans hopening
  | inside hopening _ hclosing ih =>
    cases h' with
    | name hword _ =>
      obtain ⟨rfl, -⟩ := List.cons.inj heq
      cases hword.symm.trans hopening
    | array hword _ _ _ _ _ _ =>
      obtain ⟨rfl, -⟩ := List.cons.inj heq
      cases hword.symm.trans hopening
    | inside _ hinner hclosing' =>
      simp only [List.append_assoc, List.cons_append, List.nil_append] at heq
      obtain ⟨rfl, hrest⟩ := List.cons.inj heq
      obtain ⟨rfl, rfl, hrest⟩ := ih hinner hrest
      obtain ⟨rfl, rfl⟩ := List.cons.inj hrest
      exact ⟨rfl, rfl, rfl⟩

theorem expresses_inside_iff {opening closing : Token} (hopening : opening.kind = .openParen)
    (hclosing : closing.kind = .closeParen) :
    Expresses env (opening :: ts ++ [closing]) m ↔ Expresses env ts m := by
  refine ⟨fun h => ?_, fun h => .inside hopening h hclosing⟩
  generalize hw : opening :: ts ++ [closing] = w at h
  cases h with
  | name hword _ =>
    obtain ⟨rfl, -⟩ := List.cons.inj hw
    cases hopening.symm.trans hword
  | array hword _ _ _ _ _ _ =>
    obtain ⟨rfl, -⟩ := List.cons.inj hw
    cases hopening.symm.trans hword
  | inside _ hinner _ =>
    obtain ⟨-, hends⟩ := List.cons.inj hw
    obtain ⟨rfl, -⟩ := List.append_inj' hends rfl
    exact hinner

/-- With as many closing parentheses behind an expression as there are opening ones in front of it,
the whole is an expression of the same meaning, and it is one only if the inner part is. -/
theorem expresses_wrapped_iff {opens closes : List Token} (hlength : opens.length = closes.length)
    (hopens : ∀ t ∈ opens, t.kind = .openParen) (hcloses : ∀ t ∈ closes, t.kind = .closeParen) :
    Expresses env (opens ++ ts ++ closes) m ↔ Expresses env ts m := by
  induction opens generalizing closes with
  | nil =>
    obtain rfl := List.eq_nil_of_length_eq_zero hlength.symm
    rw [List.nil_append, List.append_nil]
  | cons opening opens ih =>
    -- The outermost pair is the first opening parenthesis and the last closing one.
    rcases List.eq_nil_or_concat' closes with rfl | ⟨closes, closing, rfl⟩
    · cases hlength
    · have houter : opening :: opens ++ ts ++ (closes ++ [closing]) =
          opening :: (opens ++ ts ++ closes) ++ [closing] := by
        simp only [List.cons_append, List.append_assoc]
      rw [houter, expresses_inside_iff (hopens opening List.mem_cons_self)
        (hcloses closing (by simp))]
      exact ih (by simpa using hlength) (fun t ht => hopens t (List.mem_cons_of_mem _ ht))
        fun t ht => hcloses t (List.mem_append_left _ ht)

end Expression

namespace Reading

open Expression

variable {c c' : Cursor} {s s' : Session} {line : String} {ts rest taken : List Token}
  {type : ElementType} {bytes read : List UInt8} {e : Entity} {m : Meaning}

/-! ## The constants of an array -/

theorem located_eq_ok_iff {α : Type} {t : Token} {value : Except ConstantError α} {x : α} :
    t.located value = .ok x ↔ value = .ok x := by
  cases value with
  | ok x' =>
    constructor <;> intro h <;> cases h <;> rfl
  | error e =>
    constructor <;> intro h <;> cases h

/-- An element goes through where a constant of the type stands in front of a comma or a closing
parenthesis, and takes both tokens. -/
theorem gives_arrayElement_iff {next : Step (List UInt8)} :
    Gives (arrayElement type read) ⟨line, ts⟩ s next c' s' ↔
      ∃ t mark bytes, ts = t :: mark :: c'.pending ∧ c'.line = line ∧ s' = s ∧
        t.kind = .constant ∧ type.bytesOf t.text = .ok bytes ∧
        (mark.kind = .comma ∧ next = .next (read ++ bytes) ∨
          mark.kind = .closeParen ∧ next = .done (read ++ bytes)) := by
  constructor
  · intro h
    obtain ⟨t, c₁, s₁, ht, hbehind⟩ := h.exists_of_bind
    obtain ⟨bytes, c₂, s₂, hbytes, hmark⟩ := hbehind.exists_of_bind
    obtain ⟨rest, hkind, rfl, rfl, rfl⟩ := ht.of_constantToken
    obtain ⟨hvalue, rfl, rfl⟩ := hbytes.of_lift
    have hread := located_eq_ok_iff.1 hvalue
    obtain ⟨comma, c₃, s₃, hcomma, hother⟩ := hmark.exists_of_bind
    cases comma with
    | true =>
      obtain ⟨mark, rest, hkind', rfl, rfl, rfl⟩ := hcomma.of_skip (by decide)
      cases hother
      exact ⟨t, mark, bytes, rfl, rfl, rfl, hkind, hread, .inl ⟨hkind', rfl⟩⟩
    | false =>
      obtain ⟨rfl, rfl⟩ := hcomma.of_not_skip
      obtain ⟨close, c₄, s₄, hclose, hnone⟩ := hother.exists_of_bind
      cases close with
      | true =>
        obtain ⟨mark, rest, hkind', rfl, rfl, rfl⟩ := hclose.of_skip (by decide)
        cases hnone
        exact ⟨t, mark, bytes, rfl, rfl, rfl, hkind, hread, .inr ⟨hkind', rfl⟩⟩
      | false => cases hnone
  · rintro ⟨t, mark, bytes, rfl, rfl, rfl, hkind, hread, hmark⟩
    refine (gives_constantToken hkind).bind ((gives_lift (located_eq_ok_iff.2 hread)).bind ?_)
    obtain ⟨hcomma, rfl⟩ | ⟨hclose, rfl⟩ := hmark
    · exact (gives_skip hcomma).bind (gives_pure _)
    · exact (gives_skip_of_ne (by rw [hclose]; decide)).bind
        ((gives_skip hclose).bind (gives_pure _))

/-- **The constants of an array** are read up to the closing parenthesis behind them. -/
theorem gives_loop_arrayElement_iff :
    Gives (loop (arrayElement type) read) ⟨line, ts⟩ s bytes c' s' ↔
      ∃ taken closing others, ts = taken ++ closing :: c'.pending ∧ c'.line = line ∧ s' = s ∧
        Constants type taken others ∧ closing.kind = .closeParen ∧ bytes = read ++ others := by
  constructor
  · -- Each element takes two tokens, so the rest of the loop has fewer ahead.
    intro h
    induction hn : ts.length using Nat.strongRecOn generalizing ts read s with
    | ind n ih =>
      subst hn
      obtain hdone | ⟨read₁, c₁, s₁, hnext, hloop⟩ := h.of_loop
      · obtain ⟨t, mark, others, rfl, rfl, rfl, hkind, hread, hmark⟩ :=
          gives_arrayElement_iff.1 hdone
        obtain ⟨-, hstep⟩ | ⟨hclose, hstep⟩ := hmark
        · cases hstep
        · cases hstep
          exact ⟨[t], mark, others, rfl, rfl, rfl, .last hkind hread, hclose, rfl⟩
      · obtain ⟨t, mark, first, rfl, rfl, rfl, hkind, hread, hmark⟩ :=
          gives_arrayElement_iff.1 hnext
        obtain ⟨hcomma, hstep⟩ | ⟨-, hstep⟩ := hmark
        · cases hstep
          have hlt : c₁.pending.length < (t :: mark :: c₁.pending).length := by
            rw [List.length_cons, List.length_cons]
            omega
          obtain ⟨taken, closing, others, heq, hline, rfl, hconstants, hclose, rfl⟩ :=
            ih _ hlt (hloop hlt) rfl
          exact ⟨t :: mark :: taken, closing, first ++ others, by rw [heq]; rfl, hline, rfl,
            .more hkind hread hcomma hconstants, hclose, List.append_assoc ..⟩
        · cases hstep
  · rintro ⟨taken, closing, others, rfl, rfl, rfl, hconstants, hclose, rfl⟩
    induction hconstants generalizing read with
    | last hkind hread =>
      exact gives_loop_of_done (gives_arrayElement_iff.2
        ⟨_, closing, _, rfl, rfl, rfl, hkind, hread, .inr ⟨hclose, rfl⟩⟩)
    | @more t comma ts first others hkind hread hcomma _ ih =>
      have hnext : Gives (arrayElement type read)
          ⟨c'.line, t :: comma :: ts ++ closing :: c'.pending⟩ s' (.next (read ++ first))
          ⟨c'.line, ts ++ closing :: c'.pending⟩ s' :=
        gives_arrayElement_iff.2 ⟨t, comma, first, rfl, rfl, rfl, hkind, hread,
          .inl ⟨hcomma, rfl⟩⟩
      have hlt : (ts ++ closing :: c'.pending).length <
          (t :: comma :: ts ++ closing :: c'.pending).length := by
        simp only [List.cons_append, List.length_cons]
        omega
      refine gives_loop_of_next hnext hlt ?_
      rw [← List.append_assoc]
      exact ih

/-! ## Evaluation -/

/-- The constructor of a word that asks for no other object makes an array. -/
theorem exists_type_of_ofKeyword? {word : String} {k : Constructor}
    (h : Constructor.ofKeyword? word = some k) (hword : word ∉ objectWords) :
    ∃ type ∈ ElementType.all, k = .array type ∧ word = type.keyword := by
  have hkeyword : k.keyword = word := by simpa using List.find?_some h
  have hmem : k ∈ Constructor.all := List.mem_of_find?_eq_some h
  cases k with
  | file => exact absurd (hkeyword ▸ (by decide)) hword
  | derived d => exact absurd (hkeyword ▸ (by cases d <;> decide)) hword
  | array type =>
    refine ⟨type, ?_, rfl, hkeyword.symm⟩
    simpa [Constructor.all] using hmem

theorem ofKeyword?_type : ∀ type ∈ ElementType.all,
    Constructor.ofKeyword? type.keyword = some (.array type) := by
  decide

/-- An array goes through where its constants stand in parentheses. -/
theorem gives_array_iff {word : Token} {o : Object} :
    Gives (construct (.array type) word evaluate) ⟨line, ts⟩ s o c' s' ↔
      ∃ opening taken closing bytes, ts = opening :: taken ++ closing :: c'.pending ∧
        c'.line = line ∧ s' = s ∧ opening.kind = .openParen ∧ Constants type taken bytes ∧
        closing.kind = .closeParen ∧ o = .data ⟨bytes, type.label⟩ := by
  constructor
  · intro h
    obtain ⟨_, c₁, s₁, hopen, harray⟩ := h.exists_of_bind
    obtain ⟨bytes, c₂, s₂, hloop, hobject⟩ := harray.exists_of_bind
    cases hobject
    unfold Gives at hopen
    rw [run_openArguments] at hopen
    split at hopen
    next hkind =>
      obtain ⟨opening, rest, hpending, hopening⟩ := exists_cons_of_kind (by decide) hkind
      obtain rfl : ts = opening :: rest := hpending
      cases hopen
      obtain ⟨taken, closing, others, heq, hline, rfl, hconstants, hclose, rfl⟩ :=
        gives_loop_arrayElement_iff.1 hloop
      obtain rfl : rest = taken ++ closing :: c'.pending := heq
      exact ⟨opening, taken, closing, _, rfl, hline, rfl, hopening, hconstants, hclose, rfl⟩
    next => cases hopen
  · rintro ⟨opening, taken, closing, bytes, rfl, rfl, rfl, hopening, hconstants, hclose, rfl⟩
    refine (gives_openArguments hopening).bind (Gives.bind (a := bytes) ?_ (gives_pure _))
    exact gives_loop_arrayElement_iff.2
      ⟨taken, closing, bytes, rfl, rfl, rfl, hconstants, hclose, rfl⟩

/-- **Evaluation takes an expression**: what it has taken forms one, and gives what that stands
for. -/
theorem exists_expresses_of_gives (hplain : Plain s.env ts)
    (h : Gives evaluate ⟨line, ts⟩ s e c' s') :
    ∃ taken m, ts = taken ++ c'.pending ∧ c'.line = line ∧ Expresses s.env taken m ∧
      m.settle s = (e, s') := by
  induction ts generalizing e c' s' with
  | nil => cases h
  | cons t rest ih =>
    by_cases hparen : t.kind = .openParen
    · unfold Gives at h
      rw [run_evaluate_paren hparen] at h
      obtain ⟨e₁, c₁, s₁, hinner, hclosed⟩ := Gives.exists_of_bind h
      obtain ⟨taken, m, rfl, rfl, hm, hsettle⟩ :=
        ih (hplain.mono (List.subset_cons_self _ _)) hinner
      obtain ⟨close, c₂, s₂, hclose, hend⟩ := hclosed.exists_of_bind
      cases close with
      | true =>
        obtain ⟨closing, rest', hkind, hpending, rfl, rfl⟩ := hclose.of_skip (by decide)
        cases hend
        refine ⟨t :: taken ++ [closing], m, ?_, rfl, .inside hparen hm hkind, hsettle⟩
        rw [hpending]
        simp
      | false => cases hend
    · by_cases hword : t.kind = .word
      · cases he : s.env.lookup t.text with
        | some bound =>
          unfold Gives at h
          rw [run_evaluate_bound hword he] at h
          cases h
          exact ⟨[t], .bound e, rfl, rfl, .name hword he, rfl⟩
        | none =>
          unfold Gives at h
          cases hk : Constructor.ofKeyword? t.text with
          | none =>
            rw [run_evaluate_undefined hword he hk] at h
            cases h
          | some k =>
            obtain ⟨type, htype, rfl, hkeyword⟩ :=
              exists_type_of_ofKeyword? hk (hplain t List.mem_cons_self hword he)
            rw [run_evaluate_constructor hword he hk] at h
            obtain ⟨o, c₁, s₁, hmade, hentered⟩ := Gives.exists_of_bind h
            obtain ⟨opening, taken, closing, bytes, rfl, rfl, rfl, hopening, hconstants, hclosing,
              rfl⟩ := gives_array_iff.1 hmade
            cases hentered
            refine ⟨t :: opening :: taken ++ [closing], .array type bytes, by simp, rfl, ?_, rfl⟩
            exact .array hword he htype hkeyword hopening hconstants hclosing
      · unfold Gives at h
        rw [run_evaluate_other hparen hword] at h
        cases h

/-- **Evaluation takes every expression** at the front of the tokens ahead. -/
theorem gives_evaluate_of_expresses (hm : Expresses s.env taken m) :
    Gives evaluate ⟨line, taken ++ rest⟩ s (m.settle s).1 ⟨line, rest⟩ (m.settle s).2 := by
  induction hm generalizing rest with
  | name hword he => exact run_evaluate_bound hword he
  | @array t opening closing ts type bytes hword hfree htype hkeyword hopening hconstants
      hclosing =>
    have hk := ofKeyword?_type type htype
    rw [List.append_assoc, List.cons_append]
    refine gives_evaluate_of_construct hword hfree (hkeyword ▸ hk) (gives_array_iff.2 ?_)
    exact ⟨opening, ts, closing, bytes, by simp, rfl, rfl, hopening, hconstants, hclosing, rfl⟩
  | @inside opening closing ts m hopening _ hclosing ih =>
    unfold Gives
    rw [List.append_assoc, List.cons_append, run_evaluate_paren hopening]
    exact ih.bind ((gives_skip hclosing).bind (gives_pure _))

/-- **Evaluation accepts exactly the expressions of the grammar**, where no word ahead that is not
bound asks for any other object: it goes through if and only if some of the tokens ahead, from the
first one on, form an expression; there is no other such beginning, it is what has been taken, and
the value is what it stands for. Parentheses around an expression, however many, change nothing, and
a bound name stands for its object whatever word it is. -/
theorem evaluate_accepts_expressions (c : Cursor) (s : Session) (hplain : Plain s.env c.pending) :
    ((∃ e c' s', evaluate.run c s = ((.ok e, c'), s')) ↔
      ∃ taken rest m, c.pending = taken ++ rest ∧ Expresses s.env taken m) ∧
    (∀ taken rest m, c.pending = taken ++ rest → Expresses s.env taken m →
      evaluate.run c s = ((.ok (m.settle s).1, ⟨c.line, rest⟩), (m.settle s).2) ∧
      ∀ taken' rest' m', c.pending = taken' ++ rest' → Expresses s.env taken' m' →
        taken' = taken ∧ m' = m) ∧
    (∀ opens ts closes rest e s', c.pending = opens ++ ts ++ closes ++ rest →
      opens.length = closes.length → (∀ t ∈ opens, t.kind = .openParen) →
      (∀ t ∈ closes, t.kind = .closeParen) →
      (evaluate.run c s = ((.ok e, ⟨c.line, rest⟩), s') ↔
        evaluate.run ⟨c.line, ts ++ rest⟩ s = ((.ok e, ⟨c.line, rest⟩), s'))) ∧
    ∀ t rest e, c.pending = t :: rest → t.kind = .word → s.env.lookup t.text = some e →
      evaluate.run c s = ((.ok e, ⟨c.line, rest⟩), s) := by
  obtain ⟨line, tokens⟩ := c
  refine ⟨⟨?_, ?_⟩, ?_, ?_, ?_⟩
  · rintro ⟨e, c', s', h⟩
    obtain ⟨taken, m, heq, -, hm, -⟩ := exists_expresses_of_gives hplain h
    exact ⟨taken, c'.pending, m, heq, hm⟩
  · rintro ⟨taken, rest, m, rfl, hm⟩
    exact ⟨_, _, _, gives_evaluate_of_expresses hm⟩
  · rintro taken rest m rfl hm
    refine ⟨gives_evaluate_of_expresses hm, fun taken' rest' m' heq hm' => ?_⟩
    obtain ⟨htaken, hmeaning, -⟩ := hm'.unique hm heq.symm
    exact ⟨htaken, hmeaning⟩
  · rintro opens ts closes rest e s' rfl hlength hopens hcloses
    have hinner : Plain s.env (ts ++ rest) := hplain.mono fun t ht => by
      rcases List.mem_append.1 ht with ht | ht <;> simp [ht]
    -- Either run tells which tokens it has taken, and parentheses do not alter what these mean.
    constructor
    · intro h
      obtain ⟨taken, m, heq, -, hm, hsettle⟩ := exists_expresses_of_gives hplain h
      obtain rfl := List.append_cancel_right heq
      have hm' := (expresses_wrapped_iff hlength hopens hcloses).1 hm
      obtain ⟨rfl, rfl⟩ := Prod.mk.inj hsettle
      exact gives_evaluate_of_expresses hm'
    · intro h
      obtain ⟨taken, m, heq, -, hm, hsettle⟩ := exists_expresses_of_gives hinner h
      obtain rfl := List.append_cancel_right heq
      have hm' := (expresses_wrapped_iff hlength hopens hcloses).2 hm
      obtain ⟨rfl, rfl⟩ := Prod.mk.inj hsettle
      exact gives_evaluate_of_expresses hm'
  · rintro t rest e rfl hword he
    exact run_evaluate_bound hword he

/-- A session in which `image` is the name of an object. -/
def imageBound : Session where
  env := ⟨[("image", ⟨0, .data ⟨[7], "char data"⟩⟩)]⟩
  entities := 1
  codec := ⟨fun _ => false, fun _ _ => .ok none, fun _ _ _ _ => .ok none⟩

/-- An array in two pairs of parentheses in front of a bound name is all that is taken. -/
theorem evaluate_array_in_parentheses :
    Plain imageBound.env (Cursor.ofLine "((uchar(1, 255))) image").pending ∧
    evaluate.run (Cursor.ofLine "((uchar(1, 255))) image") imageBound =
      ((.ok ⟨1, .data ⟨[1, 255], "uchar data"⟩⟩,
          ⟨"((uchar(1, 255))) image", [⟨.word, 18, "image"⟩]⟩),
        { imageBound with entities := 2 }) := by
  let taken : List Token := [⟨.openParen, 0, "("⟩, ⟨.openParen, 1, "("⟩, ⟨.word, 2, "uchar"⟩,
    ⟨.openParen, 7, "("⟩, ⟨.constant, 8, "1"⟩, ⟨.comma, 9, ","⟩, ⟨.constant, 11, "255"⟩,
    ⟨.closeParen, 14, ")"⟩, ⟨.closeParen, 15, ")"⟩, ⟨.closeParen, 16, ")"⟩]
  have hplain : Plain imageBound.env (Cursor.ofLine "((uchar(1, 255))) image").pending := by
    unfold Plain
    decide +kernel
  have htokens : (Cursor.ofLine "((uchar(1, 255))) image").pending =
      taken ++ [⟨.word, 18, "image"⟩] := by decide +kernel
  have hconstants : Constants (.integer .uchar)
      [⟨.constant, 8, "1"⟩, ⟨.comma, 9, ","⟩, ⟨.constant, 11, "255"⟩] ([1] ++ [255]) :=
    have hone : ElementType.bytesOf (.integer .uchar) "1" = .ok [1] := by decide +kernel
    have hmost : ElementType.bytesOf (.integer .uchar) "255" = .ok [255] := by decide +kernel
    .more rfl hone rfl (.last rfl hmost)
  have hexpression : Expresses imageBound.env taken (.array (.integer .uchar) [1, 255]) :=
    .inside rfl (.inside rfl (.array rfl (by decide) (by decide) rfl rfl hconstants rfl) rfl) rfl
  exact ⟨hplain, ((evaluate_accepts_expressions _ imageBound hplain).2.1 taken _ _ htokens
    hexpression).1⟩

end Reading

end DriverBench
