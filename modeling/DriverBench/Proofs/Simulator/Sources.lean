import DriverBench.Proofs.Simulator.Declarations
import DriverBench.Proofs.Simulator.Identity
import DriverBench.Proofs.Text.Trim
/-!
# The declarations of a well-formed source are all found

A source is a row of declarations, each behind `kernel` or `__kernel`, with other text between them
(`Source`). The other text holds no keyword and does not end inside a word, so that the scan passes
over it (`declarationsAfter_append`); it passes over the name of a kernel in the same way, which may
hold keywords, because behind a name comes a parenthesis and no declaration. What is found are then
the declarations of the row, in their order, with as many parameters as were written.
-/

namespace DriverBench.Simulator

open Device

/-! ## Parameters -/

/-- A parameter of a kernel: some text that is not blank, without a comma, a closing parenthesis or
the keyword. -/
structure Parameter where
  text : List Char
  not_blank : ∃ c ∈ text, Text.isWhiteSpace c = false
  comma : ',' ∉ text
  close : ')' ∉ text
  keyless : ¬ keyword <:+: text

/-- What is written between the parentheses of a declaration. -/
inductive ParameterList where
  /-- Nothing, or white space. -/
  | blank (gap : List Char) (hgap : ∀ c ∈ gap, Text.isWhiteSpace c = true)
  /-- The word `void`. -/
  | void (left right : List Char) (hleft : ∀ c ∈ left, Text.isWhiteSpace c = true)
    (hright : ∀ c ∈ right, Text.isWhiteSpace c = true)
  /-- Parameters with commas between them; a single one is not just `void`. -/
  | parameters (first : Parameter) (more : List Parameter)
    (hvoid : more = [] → Text.trimWhere Text.isWhiteSpace first.text ≠ "void".toList)

namespace ParameterList

/-- The parameters behind the first one, each with its comma. -/
def behindFirst (more : List Parameter) : List Char :=
  more.flatMap fun p => ',' :: p.text

def text : ParameterList → List Char
  | blank gap _ => gap
  | void left right _ _ => left ++ ("void".toList ++ right)
  | parameters first more _ => first.text ++ behindFirst more

/-- How many parameters are written. -/
def count : ParameterList → Nat
  | blank .. | void .. => 0
  | parameters _ more _ => more.length + 1

theorem count_comma (more : List Parameter) : (behindFirst more).count ',' = more.length := by
  induction more with
  | nil => rfl
  | cons p more ih =>
    rw [behindFirst, List.flatMap_cons, List.count_append, List.count_cons_self,
      List.count_eq_zero_of_not_mem p.comma, ← behindFirst, ih, List.length_cons, Nat.zero_add,
      Nat.add_comm]

theorem countParameters_of_trim {cs trimmed : List Char}
    (h : Text.trimWhere Text.isWhiteSpace cs = trimmed) :
    countParameters cs =
      if trimmed = [] ∨ trimmed = "void".toList then 0 else trimmed.count ',' + 1 := by
  subst h
  rfl

/-- **As many parameters are counted as were written.** -/
theorem countParameters_text (l : ParameterList) : countParameters l.text = l.count := by
  cases l with
  | blank gap hgap =>
    rw [text, countParameters_of_trim (Text.trimWhere_eq_nil hgap)]
    rfl
  | void left right hleft hright =>
    rw [text, countParameters_of_trim (Text.trimWhere_between hleft hright (by decide)
      (by rintro _ ⟨⟩; rfl) (by rintro _ ⟨⟩; rfl))]
    rfl
  | parameters first more hvoid =>
    obtain ⟨left, right, htext, hleft, hright⟩ :=
      Text.exists_of_trimWhere Text.isWhiteSpace (first.text ++ behindFirst more)
    have hblank : ∀ l : List Char, (∀ c ∈ l, Text.isWhiteSpace c = true) → l.count ',' = 0 :=
      fun l hl => List.count_eq_zero_of_not_mem fun hmem => absurd (hl _ hmem) (by decide)
    have hcount : (Text.trimWhere Text.isWhiteSpace (first.text ++ behindFirst more)).count ',' =
        more.length := by
      have := congrArg (List.count ',') htext
      rw [List.count_append, List.count_append, List.count_append, hblank left hleft,
        hblank right hright, count_comma, List.count_eq_zero_of_not_mem first.comma] at this
      omega
    have hne : Text.trimWhere Text.isWhiteSpace (first.text ++ behindFirst more) ≠ [] := by
      intro hnil
      obtain ⟨c, hc, hstays⟩ := first.not_blank
      have hmem : c ∈ left ++ ([] ++ right) := by
        rw [← hnil, ← htext]
        exact List.mem_append_left _ hc
      rw [List.nil_append, List.mem_append] at hmem
      exact Bool.false_ne_true (hstays.symm.trans (hmem.elim (hleft c) (hright c)))
    have hnoVoid : Text.trimWhere Text.isWhiteSpace (first.text ++ behindFirst more) ≠
        "void".toList := by
      intro htrim
      rw [htrim] at hcount
      obtain rfl : more = [] := List.length_eq_zero_iff.1 hcount.symm
      exact hvoid rfl (by simpa [behindFirst] using htrim)
    rw [text, countParameters_of_trim rfl, if_neg (not_or.2 ⟨hne, hnoVoid⟩), hcount]
    rfl

/-- No closing parenthesis is written between the parentheses. -/
theorem close_not_mem_text (l : ParameterList) : ')' ∉ l.text := by
  have hblank : ∀ l : List Char, (∀ c ∈ l, Text.isWhiteSpace c = true) → ')' ∉ l :=
    fun l hl hmem => absurd (hl _ hmem) (by decide)
  cases l with
  | blank gap hgap => exact hblank gap hgap
  | void left right hleft hright =>
    rw [text, List.mem_append, List.mem_append, not_or, not_or]
    exact ⟨hblank left hleft, by decide, hblank right hright⟩
  | parameters first more hvoid =>
    have hmore : ∀ p ∈ more, ')' ∉ ',' :: p.text := fun p _ hmem =>
      p.close ((List.mem_cons.1 hmem).resolve_left (by decide))
    rw [text, behindFirst, List.mem_append, List.mem_flatMap]
    rintro (hmem | ⟨p, hp, hmem⟩)
    · exact first.close hmem
    · exact hmore p hp hmem

end ParameterList

/-! ## Texts that the scan passes over -/

/-- The characters of the keyword continue a word. -/
theorem isWordCharacter_of_mem_keyword :
    ∀ c ∈ keyword, Text.isWordCharacter c = true := List.all_eq_true.1 rfl

/-- A text without the keyword, with no word at its end. -/
structure Passable (text : List Char) : Prop where
  keyless : ¬ keyword <:+: text
  ended : ∀ c ∈ text.getLast?, Text.isWordCharacter c = false

/-- Where the text behind a keyword is none of a declaration, nothing is found there. A text in
which this holds of all keywords that begin in it, and that ends none. -/
def Undeclaring (text rest : List Char) : Prop :=
  ∀ before behind more, text = before ++ behind → behind ≠ [] → behind ++ rest = keyword ++ more →
    ∃ inner, behind = keyword ++ inner ∧ declarationAfter? more = none

theorem Undeclaring.of_append {front text rest : List Char} (h : Undeclaring (front ++ text) rest) :
    Undeclaring text rest := fun before behind more htext =>
  h (front ++ before) behind more (by rw [htext, List.append_assoc])

theorem declarationsAfter_keyword (read rest : List Char) :
    declarationsAfter read (keyword ++ rest) =
      (if mayStartWord read then (declarationAfter? rest).toList else []) ++
        declarationsAfter (keyword.reverse ++ read) rest := by
  rw [declarationsAfter]
  have hsome : afterPrefix? "kernel".toList (keyword ++ rest) = some rest :=
    afterPrefix?_eq_some_iff.2 rfl
  split
  · next more hmore =>
    obtain rfl := Option.some.inj (hmore.symm.trans hsome)
    rfl
  · next hnone => cases hnone.symm.trans hsome

theorem declarationsAfter_cons {read rest : List Char} {c : Char}
    (h : afterPrefix? keyword (c :: rest) = none) :
    declarationsAfter read (c :: rest) = declarationsAfter (c :: read) rest := by
  rw [declarationsAfter]
  split
  · next more hmore => cases h.symm.trans hmore
  · rfl

/-- **The scan goes on behind a text** in which it finds nothing. -/
theorem declarationsAfter_append {read text rest : List Char} (h : Undeclaring text rest) :
    declarationsAfter read (text ++ rest) = declarationsAfter (text.reverse ++ read) rest := by
  induction hn : text.length using Nat.strong_induction_on generalizing read text with
  | _ n ih =>
    subst hn
    cases htext : text with
    | nil => rfl
    | cons c more =>
      subst htext
      cases hkeyword : afterPrefix? keyword (c :: (more ++ rest)) with
      | none =>
        have hmore : Undeclaring ([c] ++ more) rest := h
        rw [List.cons_append, declarationsAfter_cons hkeyword,
          ih more.length (by simp) hmore.of_append rfl, List.reverse_cons, List.append_assoc]
        rfl
      | some behind =>
        have hsplit : (c :: more) ++ rest = keyword ++ behind :=
          afterPrefix?_eq_some_iff.1 hkeyword
        obtain ⟨inner, hinner, hnone⟩ := h [] (c :: more) behind rfl (List.cons_ne_nil _ _) hsplit
        rw [hinner] at h hsplit ⊢
        obtain rfl : inner ++ rest = behind :=
          List.append_cancel_left ((List.append_assoc _ _ _).symm.trans hsplit)
        have hlength : inner.length < (c :: more).length := by
          rw [hinner, List.length_append]
          exact Nat.lt_add_of_pos_left (by decide)
        rw [List.append_assoc, declarationsAfter_keyword, hnone,
          ih inner.length hlength (Undeclaring.of_append h) rfl, List.reverse_append,
          List.append_assoc]
        simp

namespace Passable

theorem undeclaring {text : List Char} (h : Passable text) (rest : List Char) :
    Undeclaring text rest := by
  rintro before behind more rfl hne heq
  rcases List.append_eq_append_iff.1 heq with ⟨tail, htail, -⟩ | ⟨inner, rfl, -⟩
  · obtain ⟨init, c, rfl⟩ := (List.eq_nil_or_concat' behind).resolve_left hne
    have hc := isWordCharacter_of_mem_keyword c (by simp [htail])
    rw [h.ended c (by simp)] at hc
    cases hc
  · exact absurd ⟨before, inner, List.append_assoc _ _ _⟩ h.keyless

/-- What holds no `k` holds no keyword. -/
theorem of_not_mem {text : List Char} (hk : 'k' ∉ text)
    (hend : ∀ c ∈ text.getLast?, Text.isWordCharacter c = false) : Passable text where
  keyless h := hk (h.subset (by decide))
  ended := hend

theorem concat {text : List Char} {c : Char} (h : ¬ keyword <:+: text)
    (hc : Text.isWordCharacter c = false) : Passable (text ++ [c]) where
  keyless hin := by
    rcases List.infix_concat_iff.1 hin with hend | hin
    · have hlast : 'l' = c := by
        obtain ⟨front, heq⟩ := hend
        have := congrArg List.getLast? heq
        simpa [keyword] using this
      subst hlast
      exact absurd hc (by decide)
    · exact h hin
  ended := by simpa using hc

theorem append {text text' : List Char} (h : Passable text) (h' : Passable text') :
    Passable (text ++ text') where
  keyless := by
    rintro ⟨before, behind, heq⟩
    rw [List.append_assoc] at heq
    rcases List.append_eq_append_iff.1 heq with ⟨start, rfl, hstart⟩ | ⟨middle, rfl, hmiddle⟩
    · by_cases hne : start = []
      · subst hne
        exact h'.keyless ⟨[], behind, by simpa using hstart⟩
      · obtain ⟨inner, hinner, hnone⟩ := h.undeclaring text' before start behind rfl hne hstart.symm
        exact h.keyless ⟨before, inner, by rw [hinner, List.append_assoc]⟩
    · exact h'.keyless ⟨middle, behind, by rw [List.append_assoc, ← hmiddle]⟩
  ended c hc := by
    by_cases hne : text' = []
    · subst hne
      exact h.ended c (by simpa using hc)
    · rw [List.getLast?_append_of_ne_nil _ hne] at hc
      exact h'.ended c hc

end Passable

namespace ParameterList

/-- With its parenthesis a parameter list can be passed over. -/
theorem passable (l : ParameterList) : Passable (l.text ++ [')']) := by
  have hclose : Text.isWordCharacter ')' = false := by decide
  have hblank : ∀ l : List Char, (∀ c ∈ l, Text.isWhiteSpace c = true) → 'k' ∉ l :=
    fun l hl hmem => absurd (hl _ hmem) (by decide)
  cases l with
  | blank gap hgap =>
    exact .concat (fun h => hblank gap hgap (h.subset (by decide))) hclose
  | void left right hleft hright =>
    refine .concat (fun h => ?_) hclose
    have hmem : 'k' ∈ left ++ ("void".toList ++ right) := h.subset (by decide)
    rw [List.mem_append, List.mem_append] at hmem
    rcases hmem with hmem | hmem | hmem
    · exact hblank left hleft hmem
    · exact absurd hmem (by decide)
    · exact hblank right hright hmem
  | parameters first more hvoid =>
    rw [text]
    clear hvoid
    induction more generalizing first with
    | nil => simpa [behindFirst] using Passable.concat first.keyless hclose
    | cons p more ih =>
      have hfirst : Passable (first.text ++ [',']) := .concat first.keyless (by decide)
      simpa [behindFirst] using hfirst.append (ih p)

end ParameterList

/-! ## Declarations one behind the other -/

/-- **A declaration of a source**, with its keyword and the text in front of it. -/
structure Item where
  /-- What stands between the declaration before and this one. -/
  before : List Char
  /-- Whether the keyword is `__kernel`. -/
  underscored : Bool
  heading : Heading
  list : ParameterList
  passable : Passable before

namespace Item

/-- The declaration behind the keyword. -/
def declaration (i : Item) : Declaration where
  toHeading := i.heading
  parameters := i.list.text
  open_parameters := i.list.close_not_mem_text

def text (i : Item) : List Char :=
  i.before ++ ((if i.underscored then "__".toList else []) ++ (keyword ++ i.declaration.text))

/-- The name and the number of the parameters as they are written. -/
def signature (i : Item) : Signature :=
  ⟨String.ofList i.heading.name, i.list.count⟩

theorem signature_declaration (i : Item) : i.declaration.signature = i.signature := by
  rw [Declaration.signature, signature, declaration, i.list.countParameters_text]

end Item

/-- The white space in front of a name is passed over, and `void` with it. -/
theorem Heading.passable_front (h : Heading) : Passable h.front := by
  have hblank : ∀ gap, IsGap gap → 'k' ∉ gap :=
    fun gap hgap hmem => absurd (hgap.blank _ hmem) (by decide)
  refine .of_not_mem ?_ fun c hc => ?_
  · rw [front, List.mem_append, List.mem_append]
    rintro ((hmem | hmem) | hmem)
    · exact hblank _ h.isGap hmem
    · exact absurd hmem (by decide)
    · exact hblank _ h.isGap_beforeName hmem
  · rw [front, List.getLast?_append_of_ne_nil _ h.isGap_beforeName.ne_nil] at hc
    exact Text.isWordCharacter_of_isWhiteSpace
      (h.isGap_beforeName.blank c (List.mem_of_mem_getLast? hc))

/-- What stands between a name and its parameters is passed over. -/
theorem Heading.passable_behindName (h : Heading) : Passable (h.gapBehindName ++ ['(']) :=
  .concat (fun hin => absurd (h.blank_behindName _ (hin.subset (by decide : 'k' ∈ keyword)))
    (by decide)) (by decide)

/-- No declaration begins behind a name. -/
theorem Declaration.declarationAfter?_behind (d : Declaration) (rest : List Char) :
    declarationAfter? (d.behind rest) = none := by
  rw [declarationAfter?_eq]
  cases hspace : afterWhiteSpace? (d.behind rest) with
  | none => rfl
  | some cs =>
    obtain ⟨⟨gap, hgap, heq⟩, hcs⟩ := afterWhiteSpace?_eq_some_iff.1 hspace
    have hdrop := (Token.takeWhile_run hgap.blank hcs).2
    rw [← heq, d.dropWhile_behind] at hdrop
    rw [← hdrop]
    rfl

/-- **A name is passed over**, keywords and all. -/
theorem Declaration.undeclaring_name (d : Declaration) (rest : List Char) :
    Undeclaring d.name (d.behind rest) := by
  rintro before behind more hname hne heq
  have hword : ∀ c ∈ behind, Text.isWordCharacter c = true := fun c hc =>
    d.isWord c (by simp [hname, hc])
  have hinside : ∃ inner, behind = keyword ++ inner ∧ more = inner ++ d.behind rest := by
    rcases List.append_eq_append_iff.1 heq with ⟨tail, htail, hbehind⟩ | ⟨inner, hinner, hmore⟩
    · cases tail with
      | nil => exact ⟨[], by simpa using htail.symm, by simpa using hbehind.symm⟩
      | cons c tail =>
        have hc := isWordCharacter_of_mem_keyword c (by simp [htail])
        rw [d.head?_behind rest c (by simp [hbehind])] at hc
        cases hc
    · exact ⟨inner, hinner, hmore⟩
  obtain ⟨inner, rfl, rfl⟩ := hinside
  refine ⟨inner, rfl, ?_⟩
  cases inner with
  | nil => exact d.declarationAfter?_behind rest
  | cons c inner =>
    have hc : Text.isWhiteSpace c = false := by
      by_contra hspace
      have := hword c (by simp)
      rw [Text.isWordCharacter_of_isWhiteSpace (by simpa using hspace)] at this
      cases this
    rw [declarationAfter?_eq, List.cons_append, afterWhiteSpace?, if_neg (by simp [hc])]
    rfl

/-- No word is being written: nothing was read, or the last character ends words. -/
def Between (read : List Char) : Prop :=
  ∀ c ∈ read.head?, Text.isWordCharacter c = false

theorem Between.mayStartWord {read : List Char} (h : Between read) : mayStartWord read = true := by
  cases read with
  | nil => rfl
  | cons c read =>
    have hc := h c rfl
    unfold Simulator.mayStartWord
    split
    · rfl
    · next heq =>
      obtain ⟨rfl, -⟩ := List.cons.inj heq
      simp [hc]
    · next heq => cases heq

theorem Between.append {read text : List Char} (h : Between read) (htext : Passable text) :
    Between (text.reverse ++ read) := by
  intro c hc
  by_cases hne : text = []
  · subst hne
    exact h c hc
  · rw [List.head?_append_of_ne_nil _ (by simpa using hne), List.head?_reverse] at hc
    exact htext.ended c hc

/-- The underscores in front of a keyword are passed over, and behind them a word may start. -/
theorem declarationsAfter_underscores {read : List Char} (hread : Between read)
    (underscored : Bool) (rest : List Char) : ∃ read', mayStartWord read' = true ∧
      declarationsAfter read ((if underscored then "__".toList else []) ++ (keyword ++ rest)) =
        declarationsAfter read' (keyword ++ rest) := by
  cases underscored with
  | false => exact ⟨read, hread.mayStartWord, rfl⟩
  | true =>
    refine ⟨"__".toList.reverse ++ read, rfl, declarationsAfter_append ?_⟩
    -- Neither of the two underscores begins a keyword.
    rintro before behind more htext hne heq
    obtain ⟨c, behind, rfl⟩ := List.exists_cons_of_ne_nil hne
    obtain rfl : 'k' = c := (List.cons.inj heq).1.symm
    have hmem : 'k' ∈ before ++ 'k' :: behind := by simp
    rw [← htext] at hmem
    exact absurd hmem (by decide)

/-- **A declaration is passed over** once its keyword is read. -/
theorem Item.declarationsAfter_text (i : Item) {read : List Char} (hread : Between read)
    (rest : List Char) : ∃ read', Between read' ∧
      declarationsAfter read (i.text ++ rest) = i.signature :: declarationsAfter read' rest := by
  obtain ⟨read₁, hstart, hkeyword⟩ := declarationsAfter_underscores (hread.append i.passable)
    i.underscored (i.declaration.text ++ rest)
  have hfound : declarationAfter? (i.declaration.text ++ rest) = some i.signature :=
    declarationAfter?_eq_some_iff.2 ⟨i.declaration, rest, rfl, i.signature_declaration⟩
  have hparts : i.declaration.text ++ rest = i.heading.front ++ (i.heading.name ++
      ((i.heading.gapBehindName ++ ['(']) ++ ((i.list.text ++ [')']) ++ rest))) := by
    simp only [Declaration.text, declaration, List.append_assoc]
  have hname : Undeclaring i.heading.name
      ((i.heading.gapBehindName ++ ['(']) ++ ((i.list.text ++ [')']) ++ rest)) := by
    simpa [Declaration.behind, declaration] using i.declaration.undeclaring_name rest
  refine ⟨(i.list.text ++ [')']).reverse ++ ((i.heading.gapBehindName ++ ['(']).reverse ++
    (i.heading.name.reverse ++ (i.heading.front.reverse ++ (keyword.reverse ++ read₁)))), ?_, ?_⟩
  · intro c hc
    obtain rfl : ')' = c := by simpa using hc
    decide
  · calc declarationsAfter read (i.text ++ rest)
        = declarationsAfter read₁ (keyword ++ (i.declaration.text ++ rest)) := by
          rw [← hkeyword, text, List.append_assoc,
            declarationsAfter_append (i.passable.undeclaring _), List.append_assoc,
            List.append_assoc]
      _ = i.signature :: declarationsAfter (keyword.reverse ++ read₁)
            (i.declaration.text ++ rest) := by
          rw [declarationsAfter_keyword, if_pos hstart, hfound]
          rfl
      _ = _ := by
          rw [hparts, declarationsAfter_append (i.heading.passable_front.undeclaring _),
            declarationsAfter_append hname,
            declarationsAfter_append (i.heading.passable_behindName.undeclaring _),
            declarationsAfter_append (i.list.passable.undeclaring _)]

/-- **A well-formed source**: declarations with other text between them, and a text without a
keyword behind the last one. -/
structure Source where
  items : List Item
  tail : List Char
  keyless : ¬ keyword <:+: tail

namespace Source

def text (s : Source) : List Char :=
  s.items.flatMap Item.text ++ s.tail

/-- What the declarations of a source declare, as they are written. -/
def signatures (s : Source) : List Signature :=
  s.items.map Item.signature

theorem declarationsAfter_tail {read tail : List Char} (h : ¬ keyword <:+: tail) :
    declarationsAfter read tail = [] := by
  refine List.eq_nil_iff_forall_not_mem.2 fun signature hmem => ?_
  obtain ⟨before, behind, rfl, -⟩ := mem_declarationsAfter_iff.1 hmem
  exact h ⟨before, behind, List.append_assoc _ _ _⟩

/-- **All declarations of a source are found**, in their order. -/
theorem declarations_text (s : Source) : declarations (String.ofList s.text) = s.signatures := by
  suffices h : ∀ (items : List Item) (read : List Char), Between read →
      declarationsAfter read (items.flatMap Item.text ++ s.tail) = items.map Item.signature by
    rw [declarations, String.toList_ofList]
    exact h s.items [] (by rintro c ⟨⟩)
  intro items
  induction items with
  | nil => exact fun read _ => declarationsAfter_tail s.keyless
  | cons i items ih =>
    intro read hread
    obtain ⟨read', hread', hitem⟩ :=
      i.declarationsAfter_text hread (items.flatMap Item.text ++ s.tail)
    rw [List.flatMap_cons, List.append_assoc, hitem, ih read' hread', List.map_cons]

end Source

/-! ## Kernels of a source that was built -/

/-- **A program that a request leaves** was there before with the same source, unless it is new;
and a build of it stays. -/
theorem program_after {d : State} (hd : d.Sound) (r : Request) {id : Nat} {p' : Program}
    (hid : id ≤ d.lastId) (hp' : (d.after r).programs.get? id = some p') :
    ∃ p, d.programs.get? id = some p ∧ p.source = p'.source ∧
      (p.built = true → p'.built = true) := by
  have hchange := change_after hd r
  generalize d.after r = d' at hchange hp'
  cases hchange with
  | settle h => exact ⟨p', h.programs ▸ hp', rfl, fun h => h⟩
  | add x =>
    cases x with
    | memory | kernel => exact ⟨p', hp', rfl, fun h => h⟩
    | program p =>
      rw [State.get?_add_program, if_neg (by omega)] at hp'
      exact ⟨p', hp', rfl, fun h => h⟩
  | write | argument => exact ⟨p', hp', rfl, fun h => h⟩
  | build =>
    obtain ⟨p, hp, rfl⟩ := Table.exists_of_get?_modify hp'
    refine ⟨p, hp, by split <;> rfl, fun hbuilt => ?_⟩
    split
    · rfl
    · exact hbuilt
  | @refuse built q hq herrors =>
    obtain ⟨p, hp, rfl⟩ := Table.exists_of_get?_modify hp'
    refine ⟨p, hp, by split <;> rfl, fun hbuilt => ?_⟩
    by_cases heq : id = built
    · -- What was built once holds no line that asks for a failure.
      subst heq
      obtain rfl : p = q := Option.some.inj (hp.symm.trans hq)
      exact absurd ((hd.program _ _ hp).noErrors hbuilt) herrors
    · rw [if_neg heq]
      exact hbuilt
  | release h =>
    refine ⟨p', ?_, rfl, fun h => h⟩
    unfold State.release at hp'
    split at hp'
    · exact hp'
    · exact hp'
    · rw [Table.get?_erase] at hp'
      split at hp'
      · cases hp'
      · exact hp'
    · exact hp'

/-- Of a name that no declaration has no kernel is created. -/
theorem run_createKernel_of_none {d : State} {program : Handle} {name : String} {p : Program}
    (hp : d.programs.get? program.id = some p) (hbuilt : p.built = true)
    (hfind : p.signatures.find? (·.name == name) = none) :
    (createKernel program name).run.run d =
      (.error (.returned "clCreateKernel" .invalidKernelName), d) := by
  unfold createKernel
  rw [Action.run_get_bind, hp]
  change (if !p.built then _ else _ : Call (Handle × String)).run.run d = _
  rw [hbuilt]
  change (orFail (p.signatures.find? _) _ _ >>= _ : Call (Handle × String)).run.run d = _
  rw [hfind]
  rfl

/-- What a driver does for a request goes through. -/
theorem gives_of_accepts {d : State} {r : Request} (h : d.accepts r = true) :
    r.perform.Gives d () (d.after r) := by
  unfold State.accepts at h
  unfold Call.Gives State.after
  rcases hrun : r.perform.run.run d with ⟨e | a, d'⟩
  · rw [hrun] at h
    cases h
  · rfl

namespace History

variable {serial : Nat} {past earlier : History}

/-- **What was built stays built**, as long as it is there. -/
theorem built_of_suffix {program : Handle} {source : String} {p : Program}
    (hsuffix : earlier <:+ past) (hbuilt : (state serial earlier).Built program source)
    (hp : (state serial past).programs.get? program.id = some p) :
    p.built = true ∧ p.source = source := by
  obtain ⟨p₀, hp₀, hb₀, rfl⟩ := hbuilt
  have hid : program.id ≤ (state serial earlier).lastId :=
    fresh_state earlier ⟨program.id, .program, none⟩ (by
      rw [State.kept?, State.lookup, hp₀]
      rfl)
  obtain ⟨since, rfl⟩ := hsuffix
  induction since generalizing p with
  | nil =>
    obtain rfl : p₀ = p := Option.some.inj (hp₀.symm.trans hp)
    exact ⟨hb₀, rfl⟩
  | cons r since ih =>
    have hle : (state serial earlier).lastId ≤ (state serial (since ++ earlier)).lastId :=
      lastId_le_of_suffix (List.suffix_append since earlier)
    obtain ⟨q, hq, hsource, hkeeps⟩ :=
      program_after (reached_state _).sound r (Nat.le_trans hid hle) hp
    obtain ⟨hbuilt, hsame⟩ := ih hq
    exact ⟨hkeeps hbuilt, hsource.symm.trans hsame⟩

/-- A build that was done has built what is there now. -/
theorem built_of_did {program : Handle} {options : String} {p : Program}
    (hdid : Did serial past (.buildProgram program options) earlier)
    (hp : (state serial past).programs.get? program.id = some p) : p.built = true := by
  have hgives : (buildProgram program options).Gives (state serial earlier) ()
      (state serial (.buildProgram program options :: earlier)) := gives_of_accepts hdid.accepted
  obtain ⟨_, -, -, hbuilt⟩ := built_of_buildProgram hgives
  exact (built_of_suffix hdid.suffix hbuilt hp).1

end History

/-- **Every well-formed declaration is found.** The kernels of a well-formed source are those that
its declarations name, in their order and with as many parameters as were written. Once a program of
the source was built, and as long as it is there, a kernel of each of these names can be created and
has an empty slot for each parameter of the first declaration of the name; creating a kernel of any
other name fails, and leaves the driver as it is. -/
theorem Source.all_declared (s : Source) :
    declarations (String.ofList s.text) = s.signatures ∧
    ∀ (serial : Nat) (past earlier : History) (program : Handle) (options : String) (p : Program),
      History.Did serial past (.buildProgram program options) earlier →
      (History.state serial past).programs.get? program.id = some p →
      p.source = String.ofList s.text →
      ∀ name : String,
        (∀ signature, s.signatures.find? (·.name == name) = some signature →
          (createKernel program name).Gives (History.state serial past)
            ((History.state serial past).nextHandle .kernel, name)
            ((History.state serial past).add
              (.kernel ⟨name, List.replicate signature.parameters none⟩))) ∧
        (name ∉ s.signatures.map Signature.name →
          (createKernel program name).run.run (History.state serial past) =
            (.error (.returned "clCreateKernel" .invalidKernelName),
              History.state serial past)) := by
  refine ⟨s.declarations_text, fun serial past earlier program options p hdid hp hsource name => ?_⟩
  have hbuilt := History.built_of_did hdid hp
  have hdeclared : p.signatures = s.signatures := by
    rw [((History.reached_state past).sound.program _ _ hp).declared hbuilt, hsource,
      s.declarations_text]
  refine ⟨fun signature hfind => gives_createKernel hp hbuilt (hdeclared.symm ▸ hfind),
    fun hname => run_createKernel_of_none hp hbuilt ?_⟩
  rw [hdeclared, List.find?_eq_none]
  intro signature hmem hsame
  exact hname (List.mem_map.2 ⟨signature, hmem, by simpa using hsame⟩)

/-- Two declarations, the first of a name that holds the keyword. -/
def sourceOfTwo : Source where
  items := [
    ⟨"// two\n".toList, false,
      ⟨[' '], "\t".toList, "my_kernel".toList, [' '], isGap_space,
        ⟨by decide, List.all_eq_true.1 rfl⟩, by decide, List.all_eq_true.1 rfl, isGap_space.blank⟩,
      .parameters ⟨"global int* größe".toList, ⟨'g', by decide, by decide⟩, by decide, by decide,
          by decide +kernel⟩
        [⟨" void".toList, ⟨'v', by decide, by decide⟩, by decide, by decide, by decide +kernel⟩]
        (by simp),
      ⟨by decide +kernel, by rintro _ ⟨⟩; rfl⟩⟩,
    ⟨" { }\n".toList, true,
      ⟨[' '], [' '], "kernel".toList, [], isGap_space, isGap_space, by decide,
        List.all_eq_true.1 rfl, nofun⟩,
      .void [] [] nofun nofun, ⟨by decide +kernel, by rintro _ ⟨⟩; rfl⟩⟩]
  tail := ";".toList
  keyless := by decide +kernel

/-- Both are found, the keyword in a name is none, and there is no kernel of a third name. -/
theorem two_declared :
    declarations (String.ofList sourceOfTwo.text) = [⟨"my_kernel", 2⟩, ⟨"kernel", 0⟩] ∧
      ∃ d : State, (createKernel ⟨1, .program, some 0⟩ "my_kernel").Gives d
          (d.nextHandle .kernel, "my_kernel") (d.add (.kernel ⟨"my_kernel", [none, none]⟩)) ∧
        (createKernel ⟨1, .program, some 0⟩ "f").run.run d =
          (.error (.returned "clCreateKernel" .invalidKernelName), d) := by
  obtain ⟨hfound, hkernels⟩ := sourceOfTwo.all_declared
  have hsignatures : sourceOfTwo.signatures = [⟨"my_kernel", 2⟩, ⟨"kernel", 0⟩] := by
    decide +kernel
  have hdid : History.Did 0 [.buildProgram ⟨1, .program, some 0⟩ "",
      .createProgram (String.ofList sourceOfTwo.text)] (.buildProgram ⟨1, .program, some 0⟩ "")
      [.createProgram (String.ofList sourceOfTwo.text)] :=
    ⟨List.suffix_rfl, by decide +kernel⟩
  obtain ⟨p, hp, hsource⟩ : ∃ p, (History.state 0 [.buildProgram ⟨1, .program, some 0⟩ "",
      .createProgram (String.ofList sourceOfTwo.text)]).programs.get? 1 = some p ∧
      p.source = String.ofList sourceOfTwo.text :=
    ⟨_, rfl, by decide +kernel⟩
  have hnames := hkernels 0 _ _ ⟨1, .program, some 0⟩ "" p hdid hp hsource
  rw [hsignatures] at hfound hnames
  exact ⟨hfound, _, (hnames "my_kernel").1 ⟨"my_kernel", 2⟩ (by decide +kernel),
    (hnames "f").2 (by decide +kernel)⟩

end DriverBench.Simulator
