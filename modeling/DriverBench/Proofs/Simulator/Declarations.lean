import Mathlib.Data.List.DropRight
import DriverBench.Proofs.Simulator.Binary
import DriverBench.Proofs.Token.Grammar
/-!
# What is taken for the declaration of a kernel

A declaration is written behind a keyword: white space, `void`, white space, a name, and what stands
between parentheses (`Declaration`). One is read wherever a text continues so
(`declarationAfter?_eq_some_iff`), and the scan of a source tries this behind each `kernel` that may
start a word (`mem_declarationsAfter_iff`). Behind a declaration's `kernel` the word ends, so what
the scan admits is said by the word around it (`Admitted`): it is `kernel`, or it ends with
`__kernel`, whatever stands before that.
-/

namespace DriverBench.Text

/-- White space does not continue a name. -/
theorem isWordCharacter_of_isWhiteSpace {c : Char} (h : isWhiteSpace c = true) :
    isWordCharacter c = false := by
  have hcode : c.toNat ∈ List.range' 0x09 5 ++ [0x20, 0x85, 0xA0, 0x1680] ++
      List.range' 0x2000 11 ++ [0x2028, 0x2029, 0x202F, 0x205F, 0x3000] := by
    simp only [isWhiteSpace, Bool.or_eq_true, Bool.and_eq_true, decide_eq_true_eq,
      beq_iff_eq] at h
    simp only [List.mem_append, List.mem_range'_1, List.mem_cons, List.not_mem_nil, or_false]
    omega
  have hall : ∀ n ∈ List.range' 0x09 5 ++ [0x20, 0x85, 0xA0, 0x1680] ++
      List.range' 0x2000 11 ++ [0x2028, 0x2029, 0x202F, 0x205F, 0x3000],
      isWordCharacter (Char.ofNat n) = false := by
    decide +kernel
  rw [← Char.ofNat_toNat c]
  exact hall _ hcode

end DriverBench.Text

namespace DriverBench.Simulator

open Device

/-- The word behind which a kernel is declared. -/
def keyword : List Char := "kernel".toList

/-! ## The parts of a declaration -/

theorem afterPrefix?_eq_some_iff {beginning cs rest : List Char} :
    afterPrefix? beginning cs = some rest ↔ cs = beginning ++ rest := by
  fun_induction afterPrefix? beginning cs with
  | case1 cs => simp [eq_comm]
  | case2 p ps => simp
  | case3 p cs ps ih => simp [ih]
  | case4 p ps c cs hne => simp [Ne.symm hne]

/-- Some text, all of it white space. -/
structure IsGap (gap : List Char) : Prop where
  ne_nil : gap ≠ []
  blank : ∀ c ∈ gap, Text.isWhiteSpace c = true

theorem isGap_space : IsGap [' '] := ⟨List.cons_ne_nil _ _, List.all_eq_true.1 rfl⟩

theorem afterWhiteSpace?_eq_some_iff {cs rest : List Char} :
    afterWhiteSpace? cs = some rest ↔
      (∃ gap, IsGap gap ∧ cs = gap ++ rest) ∧ ∀ c ∈ rest.head?, Text.isWhiteSpace c = false := by
  constructor
  · intro h
    cases cs with
    | nil => cases h
    | cons c cs =>
      rw [afterWhiteSpace?] at h
      by_cases hc : Text.isWhiteSpace c = true
      · rw [if_pos hc] at h
        obtain rfl := Option.some.inj h
        refine ⟨⟨c :: cs.takeWhile Text.isWhiteSpace, ⟨List.cons_ne_nil _ _, ?_⟩, ?_⟩, ?_⟩
        · intro x hx
          rcases List.mem_cons.1 hx with rfl | hx
          · exact hc
          · exact List.mem_takeWhile_imp hx
        · rw [List.cons_append, List.takeWhile_append_dropWhile]
        · intro x hx
          have hhead := List.head?_dropWhile_not Text.isWhiteSpace cs
          rw [Option.mem_def.1 hx] at hhead
          simpa using hhead
      · rw [if_neg hc] at h
        cases h
  · rintro ⟨⟨gap, hgap, rfl⟩, hrest⟩
    cases gap with
    | nil => exact absurd rfl hgap.ne_nil
    | cons c gap =>
      have hrun := Token.takeWhile_run (fun x hx => hgap.blank x (List.mem_cons_of_mem c hx)) hrest
      rw [List.cons_append, afterWhiteSpace?, if_pos (hgap.blank c List.mem_cons_self), hrun.2]

theorem upToClose?_eq_some_iff {cs parameters : List Char} :
    upToClose? cs = some parameters ↔
      ')' ∉ parameters ∧ ∃ rest, cs = parameters ++ ')' :: rest := by
  unfold upToClose?
  constructor
  · intro h
    by_cases hclose : cs.contains ')' = true
    · rw [if_pos hclose] at h
      obtain rfl := Option.some.inj h
      have hrest := cs.takeWhile_append_dropWhile (p := (· != ')'))
      have hnot := List.head?_dropWhile_not (· != ')') cs
      cases hdrop : cs.dropWhile (· != ')') with
      | nil =>
        have hall := List.dropWhile_eq_nil_iff.1 hdrop ')' (by simpa using hclose)
        simp at hall
      | cons c rest =>
        rw [hdrop] at hrest hnot
        obtain rfl : c = ')' := by simpa using hnot
        refine ⟨fun hmem => ?_, rest, hrest.symm⟩
        simpa using List.mem_takeWhile_imp hmem
    · rw [if_neg hclose] at h
      cases h
  · rintro ⟨hclose, rest, rfl⟩
    have hrun : ∀ c ∈ parameters, (c != ')') = true := fun c hc => by
      rw [bne_iff_ne]
      rintro rfl
      exact hclose hc
    rw [if_pos (by simp), (Token.takeWhile_run hrun (by simp)).1]

/-- What is written between a keyword and the parameters of a kernel. -/
structure Heading where
  /-- What stands between the keyword and `void`. -/
  gap : List Char
  /-- What stands between `void` and the name. -/
  gapBeforeName : List Char
  name : List Char
  /-- What stands between the name and the parenthesis, perhaps nothing. -/
  gapBehindName : List Char
  isGap : IsGap gap
  isGap_beforeName : IsGap gapBeforeName
  name_ne_nil : name ≠ []
  isWord : ∀ c ∈ name, Text.isWordCharacter c = true
  blank_behindName : ∀ c ∈ gapBehindName, Text.isWhiteSpace c = true

/-- **A declaration** as it is written behind a keyword. -/
structure Declaration extends Heading where
  /-- What stands between the parentheses. -/
  parameters : List Char
  open_parameters : ')' ∉ parameters

/-- What stands in front of the name. -/
def Heading.front (h : Heading) : List Char :=
  h.gap ++ "void".toList ++ h.gapBeforeName

namespace Declaration

/-- How a declaration reads behind its keyword. -/
def text (d : Declaration) : List Char :=
  d.front ++ d.name ++ (d.gapBehindName ++ ['(']) ++ (d.parameters ++ [')'])

/-- What stands behind the name of a declaration, up to the end of the source. -/
def behind (d : Declaration) (rest : List Char) : List Char :=
  d.gapBehindName ++ (['('] ++ (d.parameters ++ ')' :: rest))

/-- The name ends where it is written to end. -/
theorem head?_behind (d : Declaration) (rest : List Char) :
    ∀ c ∈ (d.behind rest).head?, Text.isWordCharacter c = false := by
  intro c hc
  cases hgap : d.gapBehindName with
  | nil =>
    obtain rfl : '(' = c := by simpa [behind, hgap] using hc
    decide
  | cons first more =>
    obtain rfl : first = c := by simpa [behind, hgap] using hc
    exact Text.isWordCharacter_of_isWhiteSpace (d.blank_behindName first (by simp [hgap]))

/-- The white space behind the name ends at the parenthesis. -/
theorem dropWhile_behind (d : Declaration) (rest : List Char) :
    (d.behind rest).dropWhile Text.isWhiteSpace = ['('] ++ (d.parameters ++ ')' :: rest) := by
  refine (Token.takeWhile_run d.blank_behindName fun c hc => ?_).2
  obtain rfl := Option.some.inj hc
  decide

/-- The white space in front of the name ends where it is written to end. -/
theorem head?_name (d : Declaration) (rest : List Char) :
    ∀ c ∈ (d.name ++ rest).head?, Text.isWhiteSpace c = false := by
  intro c hc
  obtain ⟨first, more, hcons⟩ := List.exists_cons_of_ne_nil d.name_ne_nil
  obtain rfl : first = c := by simpa [hcons] using hc
  have hfirst := d.isWord first (by simp [hcons])
  by_contra hblank
  rw [Text.isWordCharacter_of_isWhiteSpace (by simpa using hblank)] at hfirst
  cases hfirst

/-- What a declaration declares. -/
def signature (d : Declaration) : Signature :=
  ⟨String.ofList d.name, countParameters d.parameters⟩

end Declaration

/-- The parts of a declaration are read one behind the other. -/
theorem declarationAfter?_eq (cs : List Char) :
    declarationAfter? cs =
      (afterWhiteSpace? cs).bind fun cs => (afterPrefix? "void".toList cs).bind fun cs =>
        (afterWhiteSpace? cs).bind fun cs =>
          if cs.takeWhile Text.isWordCharacter = [] then none
          else
            (afterPrefix? ['('] ((cs.dropWhile Text.isWordCharacter).dropWhile
              Text.isWhiteSpace)).bind fun behind =>
                (upToClose? behind).bind fun parameters =>
                  some ⟨String.ofList (cs.takeWhile Text.isWordCharacter),
                    countParameters parameters⟩ := by
  unfold declarationAfter?
  simp only [Option.bind_eq_bind, List.isEmpty_iff, Option.pure_def, Option.bind_none]

/-- **A declaration is read** where the text behind a keyword is one, and no other text is. -/
theorem declarationAfter?_eq_some_iff {cs : List Char} {signature : Signature} :
    declarationAfter? cs = some signature ↔
      ∃ (d : Declaration) (rest : List Char), cs = d.text ++ rest ∧ d.signature = signature := by
  rw [declarationAfter?_eq]
  constructor
  · intro h
    obtain ⟨cs₁, h₁, hvoid⟩ := Option.bind_eq_some_iff.1 h
    obtain ⟨cs₂, h₂, hgaps⟩ := Option.bind_eq_some_iff.1 hvoid
    obtain ⟨cs₃, h₃, hnamed⟩ := Option.bind_eq_some_iff.1 hgaps
    obtain ⟨⟨gap, hgap, rfl⟩, -⟩ := afterWhiteSpace?_eq_some_iff.1 h₁
    obtain rfl := afterPrefix?_eq_some_iff.1 h₂
    obtain ⟨⟨gap', hgap', rfl⟩, -⟩ := afterWhiteSpace?_eq_some_iff.1 h₃
    by_cases hname : cs₃.takeWhile Text.isWordCharacter = []
    · rw [if_pos hname] at hnamed
      cases hnamed
    · rw [if_neg hname] at hnamed
      obtain ⟨cs₄, h₄, hlist⟩ := Option.bind_eq_some_iff.1 hnamed
      obtain ⟨parameters, h₅, hsignature⟩ := Option.bind_eq_some_iff.1 hlist
      obtain rfl := Option.some.inj hsignature
      obtain ⟨hclose, rest, rfl⟩ := upToClose?_eq_some_iff.1 h₅
      have hopen := afterPrefix?_eq_some_iff.1 h₄
      refine ⟨⟨⟨gap, gap', cs₃.takeWhile Text.isWordCharacter,
        (cs₃.dropWhile Text.isWordCharacter).takeWhile Text.isWhiteSpace, hgap, hgap', hname,
        fun c hc => List.mem_takeWhile_imp hc, fun c hc => List.mem_takeWhile_imp hc⟩,
        parameters, hclose⟩, rest, ?_, rfl⟩
      have hcs₃ : cs₃ = cs₃.takeWhile Text.isWordCharacter ++
          ((cs₃.dropWhile Text.isWordCharacter).takeWhile Text.isWhiteSpace ++
            (['('] ++ (parameters ++ ')' :: rest))) := by
        rw [← hopen, List.takeWhile_append_dropWhile, List.takeWhile_append_dropWhile]
      conv_lhs => rw [hcs₃]
      simp only [Declaration.text, Heading.front, List.append_assoc, List.cons_append,
        List.nil_append]
  · rintro ⟨d, rest, rfl, rfl⟩
    have hword := Token.takeWhile_run d.isWord (d.head?_behind rest)
    have htext : d.text ++ rest =
        d.gap ++ ("void".toList ++ (d.gapBeforeName ++ (d.name ++ d.behind rest))) := by
      simp only [Declaration.text, Heading.front, Declaration.behind, List.append_assoc,
        List.cons_append, List.nil_append]
    rw [htext, afterWhiteSpace?_eq_some_iff.2 ⟨⟨d.gap, d.isGap, rfl⟩, by simp; decide⟩,
      Option.bind_some, afterPrefix?_eq_some_iff.2 rfl, Option.bind_some,
      afterWhiteSpace?_eq_some_iff.2 ⟨⟨_, d.isGap_beforeName, rfl⟩, d.head?_name _⟩,
      Option.bind_some, hword.1, hword.2, if_neg d.name_ne_nil, d.dropWhile_behind,
      afterPrefix?_eq_some_iff.2 rfl, Option.bind_some,
      upToClose?_eq_some_iff.2 ⟨d.open_parameters, rest, rfl⟩]
    rfl

/-! ## Where the scan looks for declarations -/

/-- Two occurrences of the keyword do not overlap. -/
theorem eq_nil_or_of_keyword {before behind rest : List Char}
    (h : keyword ++ rest = before ++ (keyword ++ behind)) :
    before = [] ∨ ∃ more, before = keyword ++ more ∧ rest = more ++ (keyword ++ behind) := by
  simp only [keyword, String.reduceToList] at h ⊢
  rcases before with _ | ⟨c₁, _ | ⟨c₂, _ | ⟨c₃, _ | ⟨c₄, _ | ⟨c₅, _ | ⟨c₆, more⟩⟩⟩⟩⟩⟩ <;>
    simp_all [eq_comm]

/-- **The scan** finds what is declared behind each occurrence of the keyword that may start a
word. -/
theorem mem_declarationsAfter_iff {read cs : List Char} {signature : Signature} :
    signature ∈ declarationsAfter read cs ↔
      ∃ before behind, cs = before ++ (keyword ++ behind) ∧
        mayStartWord (before.reverse ++ read) = true ∧
        declarationAfter? behind = some signature := by
  fun_induction declarationsAfter read cs with
  | case1 read cs rest hkeyword found ih =>
    obtain rfl := afterPrefix?_eq_some_iff.1 hkeyword
    rw [List.mem_append, ih]
    constructor
    · rintro (hfound | ⟨before, behind, rfl, hstart, hdeclared⟩)
      · by_cases hstart : mayStartWord read = true
        · exact ⟨[], rest, rfl, hstart, by simpa [found, hstart] using hfound⟩
        · simp [found, hstart] at hfound
      · exact ⟨keyword ++ before, behind, by simp [keyword], by simpa [keyword] using hstart,
          hdeclared⟩
    · rintro ⟨before, behind, heq, hstart, hdeclared⟩
      rcases eq_nil_or_of_keyword heq with rfl | ⟨more, rfl, rfl⟩
      · obtain rfl : rest = behind := List.append_cancel_left heq
        have hread : mayStartWord read = true := hstart
        exact .inl (by simpa [found, hread] using hdeclared)
      · exact .inr ⟨more, behind, rfl, by simpa [keyword] using hstart, hdeclared⟩
  | case2 read hnone =>
    constructor
    · simp
    · rintro ⟨before, behind, heq, -⟩
      simp [keyword] at heq
  | case3 read c rest hnone ih =>
    rw [ih]
    constructor
    · rintro ⟨before, behind, rfl, hstart, hdeclared⟩
      exact ⟨c :: before, behind, rfl, by simpa using hstart, hdeclared⟩
    · rintro ⟨before, behind, heq, hstart, hdeclared⟩
      cases before with
      | nil =>
        have hsome : afterPrefix? keyword (c :: rest) = some behind :=
          afterPrefix?_eq_some_iff.2 heq
        cases hnone.symm.trans hsome
      | cons c' before =>
        obtain ⟨rfl, rfl⟩ := List.cons.inj heq
        exact ⟨before, behind, rfl, by simpa using hstart, hdeclared⟩

/-- The word that an occurrence of the keyword lies in: the longest run of word characters around
it. -/
def wordAround (before behind : List Char) : List Char :=
  before.rtakeWhile Text.isWordCharacter ++ keyword ++ behind.takeWhile Text.isWordCharacter

/-- What the scan asks of the word around a keyword with a declaration behind it. -/
def Admitted (word : List Char) : Prop :=
  word = keyword ∨ "__kernel".toList <:+ word

/-- A word may start where none is being written, and behind two underscores of one. -/
theorem mayStartWord_iff (before : List Char) :
    mayStartWord before.reverse = true ↔
      before.rtakeWhile Text.isWordCharacter = [] ∨
        "__".toList <:+ before.rtakeWhile Text.isWordCharacter := by
  have hrun : before.rtakeWhile Text.isWordCharacter =
      (before.reverse.takeWhile Text.isWordCharacter).reverse := by
    rw [← List.rtakeWhile_reverse, List.reverse_reverse]
  have hsuffix (l : List Char) : "__".toList <:+ l.reverse ↔ ['_', '_'] <+: l := by
    rw [← List.reverse_prefix, List.reverse_reverse]
    rfl
  have hunderscore : Text.isWordCharacter '_' = true := by decide
  rw [hrun, hsuffix, List.reverse_eq_nil_iff]
  generalize before.reverse = read
  match read with
  | [] => simp [mayStartWord]
  | [c] =>
    by_cases hc : Text.isWordCharacter c = true <;> simp [mayStartWord, hc]
  | c :: c' :: read =>
    by_cases hboth : c = '_' ∧ c' = '_'
    · obtain ⟨rfl, rfl⟩ := hboth
      simp [mayStartWord, hunderscore]
    · have hstart : mayStartWord (c :: c' :: read) = !Text.isWordCharacter c := by
        unfold mayStartWord
        split
        · next heq => simp_all
        · next heq => simp_all
        · next heq => cases heq
      rw [hstart]
      by_cases hc : Text.isWordCharacter c = true
      · have hfront : ¬ ['_', '_'] <+: (c :: c' :: read).takeWhile Text.isWordCharacter := by
          intro hfront
          obtain ⟨tail, htail⟩ := hfront.trans (List.takeWhile_prefix _)
          obtain ⟨hc, hmore⟩ := List.cons.inj htail
          exact hboth ⟨hc.symm, (List.cons.inj hmore).1.symm⟩
        simp only [hfront, or_false]
        simp [hc]
      · simp [hc]

/-- Where a declaration follows, the word around the keyword ends with it. -/
theorem mayStartWord_iff_admitted (before rest : List Char) (d : Declaration) :
    mayStartWord before.reverse = true ↔ Admitted (wordAround before (d.text ++ rest)) := by
  have hend : (d.text ++ rest).takeWhile Text.isWordCharacter = [] := by
    obtain ⟨c, gap, hgap⟩ := List.exists_cons_of_ne_nil d.isGap.ne_nil
    have hc := Text.isWordCharacter_of_isWhiteSpace (d.isGap.blank c (by simp [hgap]))
    simp [Declaration.text, Heading.front, hgap, hc]
  have hkeyword : "__kernel".toList = "__".toList ++ keyword := by decide
  rw [Admitted, wordAround, hend, List.append_nil, mayStartWord_iff, List.append_left_eq_self,
    hkeyword, List.suffix_append_self_iff]

/-- A declaration stands in a source, behind a keyword whose word the scan admits. -/
def DeclaredIn (source : String) (d : Declaration) : Prop :=
  ∃ before rest, source.toList = before ++ (keyword ++ (d.text ++ rest)) ∧
    Admitted (wordAround before (d.text ++ rest))

theorem mem_declarations_iff {source : String} {signature : Signature} :
    signature ∈ declarations source ↔
      ∃ d : Declaration, DeclaredIn source d ∧ d.signature = signature := by
  rw [declarations, mem_declarationsAfter_iff]
  constructor
  · rintro ⟨before, behind, hsource, hstart, hdeclared⟩
    obtain ⟨d, rest, rfl, rfl⟩ := declarationAfter?_eq_some_iff.1 hdeclared
    rw [List.append_nil, mayStartWord_iff_admitted before rest d] at hstart
    exact ⟨d, ⟨before, rest, hsource, hstart⟩, rfl⟩
  · rintro ⟨d, ⟨before, rest, hsource, hword⟩, rfl⟩
    refine ⟨before, d.text ++ rest, hsource, ?_,
      declarationAfter?_eq_some_iff.2 ⟨d, rest, rfl, rfl⟩⟩
    rwa [List.append_nil, mayStartWord_iff_admitted before rest d]

/-- **Which kernels a source declares**: just those of the declarations that stand behind a keyword
in an admitted word. In every driver that requests lead to, a kernel of a name can be created from a
built program if and only if its source has such a declaration of the name. The admitted words are
`kernel`, `__kernel` and every other word that ends with `__kernel`: two underscores are taken for
the beginning of a word wherever they stand. -/
theorem declared_behind_admitted (source : String) :
    (∀ signature, signature ∈ declarations source ↔
      ∃ d : Declaration, DeclaredIn source d ∧ d.signature = signature) ∧
    ∀ d : State, d.Reached → ∀ program, d.Built program source → ∀ name,
      (∃ slots, d.MakesKernel program name slots) ↔
        ∃ declaration : Declaration, DeclaredIn source declaration ∧
          String.ofList declaration.name = name := by
  refine ⟨fun _ => mem_declarations_iff, fun d hd program hbuilt name => ?_⟩
  simp only [makesKernel_iff hd.sound hbuilt]
  constructor
  · rintro ⟨slots, signature, hfind, -⟩
    obtain ⟨declaration, hdeclared, rfl⟩ :=
      mem_declarations_iff.1 (List.mem_of_find?_eq_some hfind)
    exact ⟨declaration, hdeclared, by simpa [Declaration.signature] using List.find?_some hfind⟩
  · rintro ⟨declaration, hdeclared, rfl⟩
    have hmem := mem_declarations_iff.2 ⟨declaration, hdeclared, rfl⟩
    obtain ⟨signature, hsignature⟩ := Option.isSome_iff_exists.1 (List.find?_isSome
      (p := (·.name == String.ofList declaration.name)).2 ⟨_, hmem, beq_self_eq_true _⟩)
    exact ⟨signature.parameters, signature, hsignature, rfl⟩

/-- A source in which a longer word ends with `__kernel`. -/
def sourceOfLongerWord : String := "my__kernel void x() {}"

/-- The one keyword of the source lies in the word `my__kernel`, which is neither `kernel` nor
`__kernel`, and yet a kernel can be created once the source is built. -/
theorem declared_inside_longer_word :
    (∃ d : State, d.Reached ∧ d.Built ⟨1, .program, some 0⟩ sourceOfLongerWord ∧
      ∃ slots, d.MakesKernel ⟨1, .program, some 0⟩ "x" slots) ∧
    ∀ before behind, sourceOfLongerWord.toList = before ++ (keyword ++ behind) →
      wordAround before behind = "my__kernel".toList := by
  constructor
  · have hprogram : (State.after {} (.createProgram sourceOfLongerWord)).programs.get?
        (Handle.mk 1 .program (some 0)).id = some { source := sourceOfLongerWord } := rfl
    have hreached := ((State.Reached.start 0).after (.createProgram sourceOfLongerWord)).after
      (.buildProgram ⟨1, .program, some 0⟩ "")
    have hbuilt : (State.after (State.after {} (.createProgram sourceOfLongerWord))
        (.buildProgram ⟨1, .program, some 0⟩ "")).Built ⟨1, .program, some 0⟩
          sourceOfLongerWord := by
      rw [State.after, Request.perform, run_buildProgram hprogram, if_pos (by decide +kernel)]
      exact State.built_of_note hprogram
    have hword : DeclaredIn sourceOfLongerWord ⟨⟨[' '], [' '], ['x'], [], isGap_space, isGap_space,
        List.cons_ne_nil _ _, List.all_eq_true.1 rfl, nofun⟩, [], by decide⟩ :=
      ⟨"my__".toList, " {}".toList, by decide, .inr ⟨"my".toList, by decide +kernel⟩⟩
    exact ⟨_, hreached, hbuilt,
      ((declared_behind_admitted _).2 _ hreached _ hbuilt "x").2 ⟨_, hword, rfl⟩⟩
  · intro before behind hsource
    have hplaces : ∀ n < 23, keyword <+: sourceOfLongerWord.toList.drop n → n = 4 := by
      decide +kernel
    have hdrop : sourceOfLongerWord.toList.drop before.length = keyword ++ behind := by
      rw [hsource, List.drop_left]
    have hlength : before.length < 23 := by
      have := congrArg List.length hsource
      simp only [List.length_append] at this
      have : sourceOfLongerWord.toList.length = 22 := by decide
      omega
    have hfour := hplaces _ hlength ⟨behind, hdrop.symm⟩
    have htake : (before ++ (keyword ++ behind)).take before.length = before := List.take_left
    rw [← hsource, hfour] at htake
    obtain rfl : "my__".toList = before := htake
    have hcancel : "my__kernel".toList ++ " void x() {}".toList =
      "my__kernel".toList ++ behind := hsource
    obtain rfl := List.append_cancel_left hcancel
    decide +kernel

end DriverBench.Simulator
