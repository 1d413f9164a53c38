import DriverBench.Proofs.Text.Utf8
import DriverBench.Proofs.Token.Place
/-!
# The grammar of a line

The grammar says what the tokens of a line are without saying how to find them: their texts stand
in the line in their order, each in the shape of its kind, and every byte that belongs to none of
them is a blank. A line has one division of that form and no other, and it is the one that scanning
finds. What makes it the only one is that a token is settled by the place where it begins
(`Shape.lexeme_eq`), and that it begins at the first byte that is no blank.
-/

namespace DriverBench

namespace Text

/-- What may stand between the quotes of a quoted text: characters other than a double quote and a
backslash, and pairs of a backslash with whatever character follows it. -/
inductive Escaped : List Char → Prop
  | nil : Escaped []
  | plain {c : Char} {cs : List Char} : c ≠ '"' → c ≠ '\\' → Escaped cs → Escaped (c :: cs)
  | pair (c : Char) {cs : List Char} : Escaped cs → Escaped ('\\' :: c :: cs)

/-- The bytes of a space, a tab, a carriage return and a line feed. -/
def isBlankByte (b : UInt8) : Bool :=
  b == 0x20 || b == 0x09 || b == 0x0D || b == 0x0A

theorem reads_isBlank : Reads isBlankByte isBlank where
  ascii := by decide +kernel
  byte := by decide +kernel
  char c hc := by
    simp only [isBlank, Bool.or_eq_true, beq_iff_eq] at hc
    rcases hc with ((rfl | rfl) | rfl) | rfl <;> decide

/-- What is left of a text without the blanks in front begins with no blank. -/
theorem isBlank_of_dropWhile {cs rest : List Char} {c : Char}
    (h : cs.dropWhile isBlank = c :: rest) : isBlank c = false := by
  have hhead := List.head?_dropWhile_not isBlank cs
  rwa [h] at hhead

/-- Blanks are made of blank bytes. -/
theorem isBlankByte_of_mem_encode {cs : List Char} (h : ∀ c ∈ cs, isBlank c = true) {b : UInt8}
    (hb : b ∈ encode cs) : isBlankByte b = true := by
  obtain ⟨c, hc, hm⟩ := List.mem_flatMap.1 hb
  obtain ⟨first, tail, hbytes, -⟩ := encode_char_cases c
  obtain ⟨heq, htail⟩ := reads_isBlank.first hbytes
  rw [hbytes, htail (h c hc), List.mem_singleton] at hm
  rw [hm, heq, h c hc]

end Text

namespace Token

/-! ## Closed quotes -/

theorem closeQuote_of_escaped {inner : List Char} (h : Text.Escaped inner) (after : List Char) :
    closeQuote (inner ++ '"' :: after) = some (inner ++ ['"'], after) := by
  induction h with
  | nil => rfl
  | @plain c cs hq hb _ ih =>
    have hstep : closeQuote (c :: (cs ++ '"' :: after)) =
        (closeQuote (cs ++ '"' :: after)).map fun found => (c :: found.1, found.2) := by
      rw [closeQuote.eq_def]
      split <;> simp_all
    rw [List.cons_append, hstep, ih]
    rfl
  | pair c _ ih =>
    rw [List.cons_append, List.cons_append, closeQuote, ih]
    rfl

theorem exists_escaped_of_closeQuote {cs body after : List Char}
    (h : closeQuote cs = some (body, after)) :
    ∃ inner, Text.Escaped inner ∧ body = inner ++ ['"'] ∧ cs = inner ++ '"' :: after := by
  fun_induction closeQuote cs generalizing body after with
  | case1 => simp at h
  | case2 rest =>
    obtain ⟨rfl, rfl⟩ := Prod.mk.inj (Option.some.inj h)
    exact ⟨[], .nil, rfl, rfl⟩
  | case3 c rest ih =>
    obtain ⟨⟨b, a⟩, hb, he⟩ := Option.map_eq_some_iff.1 h
    obtain ⟨rfl, rfl⟩ := Prod.mk.inj he
    obtain ⟨inner, hi, rfl, rfl⟩ := ih hb
    exact ⟨'\\' :: c :: inner, .pair c hi, rfl, rfl⟩
  | case4 => simp at h
  | case5 c rest hq hpair hlone ih =>
    obtain ⟨⟨b, a⟩, hb, he⟩ := Option.map_eq_some_iff.1 h
    obtain ⟨rfl, rfl⟩ := Prod.mk.inj he
    obtain ⟨inner, hi, rfl, rfl⟩ := ih hb
    refine ⟨c :: inner, .plain (fun hc => hq hc) (fun hc => ?_) hi, rfl, rfl⟩
    -- a backslash has a character behind it here, so an earlier case would have read the two
    subst hc
    cases inner with
    | nil => exact hpair '"' a rfl rfl
    | cons d ds => exact hpair d (ds ++ '"' :: a) rfl rfl

/-! ## The shapes of tokens -/

/-- The signs and their kinds. -/
def signs : List (TokenKind × Char) :=
  [(.equal, '='), (.comma, ','), (.openParen, '('), (.closeParen, ')')]

/-- Whether a word starts with a digit, perhaps behind one plus or minus. -/
def StartsNumber (word : List Char) : Prop :=
  ∃ sign digit rest, word = sign ++ digit :: rest ∧ (sign = [] ∨ sign = ['+'] ∨ sign = ['-']) ∧
    digit.isDigit = true

/-- A longest run of word characters between what stands before it and behind it. -/
structure IsWord (before word after : List Char) : Prop where
  ne_nil : word ≠ []
  parts : ∀ c ∈ word, isWordPart c = true
  left : ∀ c ∈ before.getLast?, isWordPart c = false
  right : ∀ c ∈ after.head?, isWordPart c = false

/-- **The shapes of tokens.** Between what stands before it and behind it, a text is a token of a
kind. -/
inductive Shape (before : List Char) : TokenKind → List Char → List Char → Prop
  | sign {kind : TokenKind} {c : Char} (after : List Char) : (kind, c) ∈ signs →
      Shape before kind [c] after
  | quoted {inner : List Char} (after : List Char) : Text.Escaped inner →
      Shape before .quoted ('"' :: (inner ++ ['"'])) after
  | constant {word after : List Char} : IsWord before word after → StartsNumber word →
      Shape before .constant word after
  | word {word after : List Char} : IsWord before word after → ¬ StartsNumber word →
      Shape before .word word after
  /-- A quote that nothing closes goes to the end of the line. -/
  | openQuote {rest : List Char} :
      (∀ inner after, Text.Escaped inner → rest ≠ inner ++ '"' :: after) →
      Shape before .invalid ('"' :: rest) []
  /-- A character that begins no token of another shape. -/
  | stray {c : Char} (after : List Char) : Text.isBlank c = false → c ≠ '"' →
      (∀ kind, (kind, c) ∉ signs) → isWordPart c = false → Shape before .invalid [c] after

theorem looksLikeNumber_iff (word : List Char) :
    looksLikeNumber word = true ↔ StartsNumber word := by
  constructor
  · intro h
    unfold looksLikeNumber at h
    split at h
    · next c rest => exact ⟨['+'], c, rest, rfl, .inr (.inl rfl), h⟩
    · next c rest => exact ⟨['-'], c, rest, rfl, .inr (.inr rfl), h⟩
    · next c rest _ _ => exact ⟨[], c, rest, rfl, .inl rfl, h⟩
    · cases h
  · rintro ⟨sign, digit, rest, rfl, rfl | rfl | rfl, hd⟩
    · -- a digit is no sign
      have hp : digit ≠ '+' := by rintro rfl; cases hd
      have hm : digit ≠ '-' := by rintro rfl; cases hd
      rw [List.nil_append, looksLikeNumber.eq_def]
      split <;> simp_all
    · exact hd
    · exact hd

theorem mem_signs_iff {kind : TokenKind} {c : Char} :
    (kind, c) ∈ signs ↔ signKind? c = some kind := by
  unfold signKind?
  constructor
  · intro h
    simp only [signs, List.mem_cons, Prod.mk.injEq, List.not_mem_nil, or_false] at h
    rcases h with ⟨rfl, rfl⟩ | ⟨rfl, rfl⟩ | ⟨rfl, rfl⟩ | ⟨rfl, rfl⟩ <;> rfl
  · intro h
    split at h <;> cases h <;> simp [signs]

/-- A word character is no blank, no quote and no sign. -/
theorem apart_of_isWordPart {c : Char} (h : isWordPart c = true) :
    Text.isBlank c = false ∧ c ≠ '"' ∧ signKind? c = none := by
  refine ⟨?_, ?_, ?_⟩
  · by_contra hb
    simp only [Bool.not_eq_false, Text.isBlank, Bool.or_eq_true, beq_iff_eq] at hb
    rcases hb with ((rfl | rfl) | rfl) | rfl <;> exact absurd h (by decide)
  · rintro rfl
    exact absurd h (by decide)
  · unfold signKind?
    split <;> first | rfl | exact absurd h (by decide)

theorem apart_of_signKind? {c : Char} {kind : TokenKind} (h : signKind? c = some kind) :
    Text.isBlank c = false ∧ isWordPart c = false := by
  unfold signKind? at h
  split at h <;> cases h <;> decide

/-- A run of characters of a class ends where the class ends. -/
theorem takeWhile_run {p : Char → Bool} {run after : List Char} (hp : ∀ c ∈ run, p c = true)
    (hafter : ∀ c ∈ after.head?, p c = false) :
    (run ++ after).takeWhile p = run ∧ (run ++ after).dropWhile p = after := by
  have hstop : after.takeWhile p = [] ∧ after.dropWhile p = after := by
    cases after with
    | nil => exact ⟨rfl, rfl⟩
    | cons c rest =>
      have hc : p c = false := hafter c rfl
      simp [hc]
  rw [List.takeWhile_append_of_pos hp, List.dropWhile_append_of_pos hp, hstop.1, hstop.2,
    List.append_nil]
  exact ⟨rfl, rfl⟩

/-- A longest run of word characters is what is taken for a word. -/
theorem lexeme_of_isWord {before word after : List Char} (h : IsWord before word after) :
    ∃ c rest, word ++ after = c :: rest ∧ Text.isBlank c = false ∧
      lexeme c rest = ⟨wordKind word, word, after⟩ := by
  obtain ⟨c, tail, rfl⟩ := List.exists_cons_of_ne_nil h.ne_nil
  have hc : isWordPart c = true := h.parts c List.mem_cons_self
  obtain ⟨hblank, hquote, hsign⟩ := apart_of_isWordPart hc
  obtain ⟨htake, hdrop⟩ := takeWhile_run (fun d hd => h.parts d (List.mem_cons_of_mem c hd)) h.right
  refine ⟨c, tail ++ after, rfl, hblank, ?_⟩
  unfold lexeme
  rw [hsign]
  dsimp only
  rw [if_neg hquote, if_pos hc, htake, hdrop]

/-- **A token is settled by where it begins**: of what stands there, its text, its kind and its end
are what scanning takes. -/
theorem Shape.lexeme_eq {before text after : List Char} {kind : TokenKind}
    (h : Shape before kind text after) :
    ∃ c rest, text ++ after = c :: rest ∧ Text.isBlank c = false ∧
      lexeme c rest = ⟨kind, text, after⟩ := by
  cases h with
  | @sign _ c _ hs =>
    have hsign := mem_signs_iff.1 hs
    refine ⟨c, after, rfl, (apart_of_signKind? hsign).1, ?_⟩
    unfold lexeme
    rw [hsign]
  | @quoted inner _ hi =>
    refine ⟨'"', inner ++ ['"'] ++ after, rfl, rfl, ?_⟩
    have hclose := closeQuote_of_escaped hi after
    rw [List.append_cons] at hclose
    unfold lexeme
    rw [show signKind? '"' = none from rfl]
    dsimp only
    rw [if_pos rfl, hclose]
  | constant hw hn =>
    obtain ⟨c, rest, heq, hc, hl⟩ := lexeme_of_isWord hw
    refine ⟨c, rest, heq, hc, hl.trans ?_⟩
    rw [wordKind, if_pos ((looksLikeNumber_iff text).2 hn)]
  | word hw hn =>
    obtain ⟨c, rest, heq, hc, hl⟩ := lexeme_of_isWord hw
    refine ⟨c, rest, heq, hc, hl.trans ?_⟩
    rw [wordKind, if_neg fun hl => hn ((looksLikeNumber_iff text).1 hl)]
  | @openQuote rest hopen =>
    refine ⟨'"', rest, by rw [List.append_nil], rfl, ?_⟩
    have hnone : closeQuote rest = none := by
      by_contra hne
      obtain ⟨⟨body, after⟩, hclose⟩ := Option.ne_none_iff_exists'.1 hne
      obtain ⟨inner, hi, -, hrest⟩ := exists_escaped_of_closeQuote hclose
      exact hopen inner after hi hrest
    unfold lexeme
    rw [show signKind? '"' = none from rfl]
    dsimp only
    rw [if_pos rfl, hnone]
  | @stray c _ hblank hquote hsign hword =>
    have hnone : signKind? c = none := by
      by_contra hne
      obtain ⟨kind, hkind⟩ := Option.ne_none_iff_exists'.1 hne
      exact hsign kind (mem_signs_iff.2 hkind)
    refine ⟨c, after, rfl, hblank, ?_⟩
    unfold lexeme
    rw [hnone]
    dsimp only
    rw [if_neg hquote, if_neg (by rw [hword]; exact Bool.false_ne_true)]

/-- No shape is that of the end of a line. -/
theorem Shape.ne_finish {before text after : List Char} {kind : TokenKind}
    (h : Shape before kind text after) : kind ≠ .finish := by
  rintro rfl
  cases h with
  | sign _ hs => exact absurd hs (by simp [signs])

/-- No word runs across the place between two texts. -/
def Border (before after : List Char) : Prop :=
  ∀ a ∈ before.getLast?, ∀ b ∈ after.head?, isWordPart a = true → isWordPart b = false

theorem border_nil (after : List Char) : Border [] after := by
  intro a ha
  cases ha

/-- What scanning takes has the shape of its kind, unless it is the end of a longer word. -/
theorem shape_lexeme {before rest : List Char} {c : Char} (hc : Text.isBlank c = false)
    (hb : Border before (c :: rest)) :
    Shape before (lexeme c rest).kind (lexeme c rest).text (lexeme c rest).rest := by
  unfold lexeme
  cases hsign : signKind? c with
  | some kind => exact .sign rest (mem_signs_iff.2 hsign)
  | none =>
    dsimp only
    by_cases hquote : c = '"'
    · subst hquote
      rw [if_pos rfl]
      cases hclose : closeQuote rest with
      | some p =>
        obtain ⟨inner, hi, hbody, -⟩ := exists_escaped_of_closeQuote hclose
        dsimp only
        rw [hbody]
        exact .quoted _ hi
      | none =>
        refine .openQuote fun inner after hi hrest => ?_
        rw [hrest, closeQuote_of_escaped hi after] at hclose
        cases hclose
    rw [if_neg hquote]
    by_cases hword : isWordPart c = true
    · rw [if_pos hword]
      dsimp only
      have hw : IsWord before (c :: rest.takeWhile isWordPart) (rest.dropWhile isWordPart) := by
        refine ⟨by simp, fun d hd => ?_, fun d hd => ?_, fun d hd => ?_⟩
        · rcases List.mem_cons.1 hd with rfl | hd
          · exact hword
          · exact List.mem_takeWhile_imp hd
        · by_contra hne
          have hright := hb d hd c rfl (by simpa using hne)
          rw [hword] at hright
          cases hright
        · have hstop := List.head?_dropWhile_not isWordPart rest
          rw [Option.mem_def.1 hd] at hstop
          exact hstop
      unfold wordKind
      split
      · next hn => exact .constant hw ((looksLikeNumber_iff _).1 hn)
      · next hn => exact .word hw fun h => hn ((looksLikeNumber_iff _).2 h)
    · rw [if_neg hword]
      refine .stray rest hc hquote (fun kind hm => ?_) (by simpa using hword)
      rw [mem_signs_iff.1 hm] at hsign
      cases hsign

/-- No word runs across the end of a token. -/
theorem Shape.border {before text after : List Char} {kind : TokenKind}
    (h : Shape before kind text after) : Border (before ++ text) after := by
  intro a ha b hb hword
  cases h with
  | @sign _ c _ hs =>
    rw [List.getLast?_concat, Option.mem_some] at ha
    rw [← ha, (apart_of_signKind? (mem_signs_iff.1 hs)).2] at hword
    cases hword
  | @quoted inner _ hi =>
    rw [← List.cons_append, ← List.append_assoc, List.getLast?_concat, Option.mem_some] at ha
    rw [← ha] at hword
    exact absurd hword (by decide)
  | constant hw hn => exact hw.right b hb
  | word hw hn => exact hw.right b hb
  | openQuote hopen => cases hb
  | @stray c _ hblank hquote hsign hpart =>
    rw [List.getLast?_concat, Option.mem_some] at ha
    rw [← ha, hpart] at hword
    cases hword

/-- The kind of a token is the only one whose shape its text has. -/
theorem Shape.kind_iff {before text after : List Char} {k : TokenKind}
    (h : Shape before k text after) (kind : TokenKind) :
    k = kind ↔ Shape before kind text after := by
  constructor
  · rintro rfl
    exact h
  · intro h'
    obtain ⟨c, rest, heq, -, hl⟩ := h.lexeme_eq
    obtain ⟨c', rest', heq', -, hl'⟩ := h'.lexeme_eq
    obtain ⟨rfl, rfl⟩ := List.cons.inj (heq.symm.trans heq')
    exact congrArg Lexeme.kind (hl.symm.trans hl')

theorem Shape.ne_nil {before text after : List Char} {kind : TokenKind}
    (h : Shape before kind text after) : text ≠ [] := by
  obtain ⟨c, rest, heq, -, hl⟩ := h.lexeme_eq
  have hne := Lexeme.text_ne_nil c rest
  rwa [hl] at hne

/-! ## Divisions -/

/-- **Tokens divide the part of a line behind some text**: they lie behind that text in their order
and do not overlap, each stands in the line at its place and is of just the kind that its text has
there, and every byte that belongs to none of them is a blank. -/
structure Divides (before rest : List Char) (ts : List Token) : Prop where
  shaped : ∀ t ∈ ts, ∃ left right, left ++ (t.text.toList ++ right) = before ++ rest ∧
    Text.byteLength left = t.start ∧ ∀ kind, t.kind = kind ↔ Shape left kind t.text.toList right
  behind : ∀ t ∈ ts, Text.byteLength before ≤ t.start
  ordered : ts.Pairwise fun t u => t.stop ≤ u.start
  covered : ∀ i b, (Text.encode rest)[i]? = some b → Text.isBlankByte b = false →
    ∃ t ∈ ts, t.start ≤ Text.byteLength before + i ∧ Text.byteLength before + i < t.stop

variable {before rest : List Char} {ts : List Token}

namespace Divides

/-- Where a token stands in the part that is divided. -/
theorem exists_at (h : Divides before rest ts) {t : Token} (ht : t ∈ ts) :
    ∃ skipped right, rest = skipped ++ (t.text.toList ++ right) ∧
      t.start = Text.byteLength before + Text.byteLength skipped ∧
      Shape (before ++ skipped) t.kind t.text.toList right := by
  obtain ⟨left, right, heq, hstart, hkind⟩ := h.shaped t ht
  have hle := h.behind t ht
  rw [← hstart] at hle
  obtain ⟨skipped, rfl, hrest⟩ := Text.exists_append_of_byteLength_le heq.symm hle
  rw [Text.byteLength_append] at hstart
  exact ⟨skipped, right, hrest, hstart.symm, (hkind t.kind).1 rfl⟩

theorem start_lt_stop (h : Divides before rest ts) {t : Token} (ht : t ∈ ts) :
    t.start < t.stop := by
  obtain ⟨skipped, right, -, -, hshape⟩ := h.exists_at ht
  obtain ⟨c, tail, hc⟩ := List.exists_cons_of_ne_nil hshape.ne_nil
  have hpos := Char.utf8Size_pos c
  rw [stop, hc, Text.byteLength_cons]
  omega

theorem kind_ne_finish (h : Divides before rest ts) {t : Token} (ht : t ∈ ts) :
    t.kind ≠ .finish := by
  obtain ⟨skipped, right, -, -, hshape⟩ := h.exists_at ht
  exact hshape.ne_finish

/-- No token begins among the blanks in front. -/
theorem le_start {blanks : List Char} (hb : ∀ c ∈ blanks, Text.isBlank c = true)
    (h : Divides before (blanks ++ rest) ts) {t : Token} (ht : t ∈ ts) :
    Text.byteLength before + Text.byteLength blanks ≤ t.start := by
  obtain ⟨skipped, right, heq, hstart, hshape⟩ := h.exists_at ht
  obtain ⟨c, tail, hc, hblank, -⟩ := hshape.lexeme_eq
  rw [hc] at heq
  by_contra hlt
  have hle : Text.byteLength skipped ≤ Text.byteLength blanks := by omega
  obtain ⟨more, rfl, htail⟩ := Text.exists_append_of_byteLength_le heq.symm hle
  cases more with
  | nil => rw [List.append_nil] at hlt; omega
  | cons d more =>
    obtain ⟨rfl, -⟩ := List.cons.inj htail
    rw [hb c (by simp)] at hblank
    cases hblank

/-- Blanks are divided into no tokens. -/
theorem eq_nil (hb : ∀ c ∈ rest, Text.isBlank c = true) (h : Divides before rest ts) : ts = [] := by
  rw [List.eq_nil_iff_forall_not_mem]
  intro t ht
  obtain ⟨skipped, right, heq, -, hshape⟩ := h.exists_at ht
  obtain ⟨c, tail, hc, hblank, -⟩ := hshape.lexeme_eq
  rw [hb c (by rw [heq, hc]; simp)] at hblank
  cases hblank

/-- What scanning takes off behind the blanks is one of the tokens: the first byte of the character
there belongs to some token, which can only begin with it. -/
theorem lexeme_mem {blanks : List Char} {c : Char} (hb : ∀ c ∈ blanks, Text.isBlank c = true)
    (hc : Text.isBlank c = false) (h : Divides before (blanks ++ c :: rest) ts) :
    ⟨(lexeme c rest).kind, Text.byteLength before + Text.byteLength blanks,
      String.ofList (lexeme c rest).text⟩ ∈ ts := by
  obtain ⟨b, tail, hbytes, -⟩ := Text.encode_char_cases c
  have hfirst : Text.isBlankByte b = false := (Text.reads_isBlank.first hbytes).1.trans hc
  have hat : (Text.encode (blanks ++ c :: rest))[Text.byteLength blanks]? = some b := by
    rw [← Nat.add_zero (Text.byteLength blanks), Text.getElem?_encode_append, Text.encode_cons,
      hbytes]
    rfl
  obtain ⟨t, ht, hfrom, hto⟩ := h.covered _ b hat hfirst
  have hstart : t.start = Text.byteLength before + Text.byteLength blanks :=
    Nat.le_antisymm hfrom (h.le_start hb ht)
  obtain ⟨skipped, right, heq, hskipped, hshape⟩ := h.exists_at ht
  obtain ⟨rfl, htext⟩ := Text.append_inj_of_byteLength heq (by omega)
  obtain ⟨d, tail', hd, -, hl⟩ := hshape.lexeme_eq
  obtain ⟨rfl, rfl⟩ := List.cons.inj (htext.trans hd)
  rwa [hl, ← hstart, String.ofList_toList]

/-- Behind the first token the others divide what is left. -/
theorem of_cons {blanks text : List Char} {kind : TokenKind}
    (h : Divides before (blanks ++ (text ++ rest))
      (⟨kind, Text.byteLength before + Text.byteLength blanks, String.ofList text⟩ :: ts)) :
    Divides (before ++ blanks ++ text) rest ts := by
  have hordered := List.pairwise_cons.1 h.ordered
  have hstop : ∀ u ∈ ts, Text.byteLength (before ++ blanks ++ text) ≤ u.start := by
    intro u hu
    have hle := hordered.1 u hu
    rwa [stop, String.toList_ofList, ← Text.byteLength_append, ← Text.byteLength_append] at hle
  refine ⟨fun u hu => ?_, hstop, hordered.2, fun i b hi hblank => ?_⟩
  · obtain ⟨left, right, heq, hleft⟩ := h.shaped u (List.mem_cons_of_mem _ hu)
    refine ⟨left, right, heq.trans ?_, hleft⟩
    simp only [List.append_assoc]
  · have hbehind := (Text.getElem?_encode_append (blanks ++ text) rest i).trans hi
    rw [List.append_assoc] at hbehind
    obtain ⟨u, hu, hfrom, hto⟩ := h.covered _ b hbehind hblank
    rw [← Nat.add_assoc, ← Text.byteLength_append, ← List.append_assoc] at hfrom hto
    rcases List.mem_cons.1 hu with rfl | hu
    · rw [stop, String.toList_ofList, ← Text.byteLength_append, ← Text.byteLength_append] at hto
      exact absurd hto (Nat.not_lt.2 (Nat.le_add_right _ i))
    · exact ⟨u, hu, hfrom, hto⟩

/-- **The first token** begins at the first character that is no blank and is what scanning takes
off there; the other tokens divide what is left behind it. -/
theorem eq_cons {blanks : List Char} {c : Char} (hb : ∀ c ∈ blanks, Text.isBlank c = true)
    (hc : Text.isBlank c = false) (h : Divides before (blanks ++ c :: rest) ts) :
    ∃ later, ts = ⟨(lexeme c rest).kind, Text.byteLength before + Text.byteLength blanks,
        String.ofList (lexeme c rest).text⟩ :: later ∧
      Divides (before ++ blanks ++ (lexeme c rest).text) (lexeme c rest).rest later := by
  obtain ⟨earlier, later, rfl⟩ := List.append_of_mem (h.lexeme_mem hb hc)
  -- a token before it would be among the blanks
  have hnone : earlier = [] := by
    rw [List.eq_nil_iff_forall_not_mem]
    intro u hu
    have hle := h.le_start hb (List.mem_append_left _ hu)
    have hlt := h.start_lt_stop (List.mem_append_left _ hu)
    have hstop : u.stop ≤ Text.byteLength before + Text.byteLength blanks :=
      (List.pairwise_append.1 h.ordered).2.2 u hu _ List.mem_cons_self
    omega
  subst hnone
  rw [← Lexeme.text_append_rest c rest] at h
  exact ⟨later, rfl, of_cons h⟩

theorem nil (hb : ∀ c ∈ rest, Text.isBlank c = true) : Divides before rest [] where
  shaped := by simp
  behind := by simp
  ordered := .nil
  covered i b hi hblank := by
    rw [Text.isBlankByte_of_mem_encode hb (List.mem_of_getElem? hi)] at hblank
    cases hblank

/-- A token behind blanks divides, with the tokens behind it. -/
theorem cons {blanks text : List Char} {kind : TokenKind}
    (hb : ∀ c ∈ blanks, Text.isBlank c = true) (ht : Shape (before ++ blanks) kind text rest)
    (h : Divides (before ++ blanks ++ text) rest ts) :
    Divides before (blanks ++ (text ++ rest))
      (⟨kind, Text.byteLength before + Text.byteLength blanks, String.ofList text⟩ :: ts) := by
  have hlengths : Text.byteLength (before ++ blanks ++ text) =
      Text.byteLength before + Text.byteLength blanks + Text.byteLength text := by
    rw [Text.byteLength_append, Text.byteLength_append]
  have hbehind := h.behind
  rw [hlengths] at hbehind
  refine ⟨fun u hu => ?_, fun u hu => ?_, ?_, fun i b hi hblank => ?_⟩
  · rcases List.mem_cons.1 hu with rfl | hu
    · refine ⟨before ++ blanks, rest, ?_, Text.byteLength_append _ _, fun kind' => ?_⟩
      · rw [String.toList_ofList, List.append_assoc]
      · rw [String.toList_ofList]
        exact ht.kind_iff kind'
    · obtain ⟨left, right, heq, hleft⟩ := h.shaped u hu
      refine ⟨left, right, heq.trans ?_, hleft⟩
      simp only [List.append_assoc]
  · rcases List.mem_cons.1 hu with rfl | hu
    · exact Nat.le_add_right _ _
    · have := hbehind u hu
      omega
  · refine List.pairwise_cons.2 ⟨fun u hu => ?_, h.ordered⟩
    rw [stop, String.toList_ofList]
    exact hbehind u hu
  · -- the byte is one of the blanks, of the token, or of what is behind it
    rcases Nat.lt_or_ge i (Text.byteLength blanks) with hi₁ | hi₁
    · rw [Text.getElem?_encode_append_left _ hi₁] at hi
      rw [Text.isBlankByte_of_mem_encode hb (List.mem_of_getElem? hi)] at hblank
      cases hblank
    rcases Nat.lt_or_ge i (Text.byteLength blanks + Text.byteLength text) with hi₂ | hi₂
    · refine ⟨_, List.mem_cons_self, ?_, ?_⟩
      · dsimp only
        omega
      · rw [stop, String.toList_ofList]
        dsimp only
        omega
    · obtain ⟨k, rfl⟩ := Nat.exists_eq_add_of_le hi₂
      rw [← List.append_assoc, ← Text.byteLength_append, Text.getElem?_encode_append] at hi
      obtain ⟨u, hu, hfrom, hto⟩ := h.covered _ b hi hblank
      rw [hlengths] at hfrom hto
      exact ⟨u, List.mem_cons_of_mem _ hu, by omega, by omega⟩

end Divides

/-- **Scanning is the only division.** -/
theorem Divides.eq_scan (h : Divides before rest ts) : ts = scan (Text.byteLength before) rest := by
  generalize hstart : Text.byteLength before = start
  fun_induction scan start rest generalizing before ts with
  | case1 start rest hdrop => exact h.eq_nil (List.dropWhile_eq_nil_iff.1 hdrop)
  | case2 start rest c tail hdrop =>
    rename_i begin l ih
    have hsplit : rest.takeWhile Text.isBlank ++ c :: tail = rest := by
      rw [← hdrop, List.takeWhile_append_dropWhile]
    have hc : Text.isBlank c = false := Text.isBlank_of_dropWhile hdrop
    rw [← hsplit] at h
    obtain ⟨later, rfl, hlater⟩ := h.eq_cons (fun _ hm => List.mem_takeWhile_imp hm) hc
    have hlength : Text.byteLength (before ++ rest.takeWhile Text.isBlank ++ l.text) =
        begin + Text.byteLength l.text := by
      rw [Text.byteLength_append, Text.byteLength_append, hstart]
    rw [ih hlater hlength, hstart]

/-- **Scanning divides** whatever part of a line does not begin inside a word. -/
theorem divides_scan (hborder : Border before rest) :
    Divides before rest (scan (Text.byteLength before) rest) := by
  generalize hstart : Text.byteLength before = start
  fun_induction scan start rest generalizing before with
  | case1 start rest hdrop => exact .nil (List.dropWhile_eq_nil_iff.1 hdrop)
  | case2 start rest c tail hdrop =>
    rename_i begin l ih
    have hblanks : ∀ b ∈ rest.takeWhile Text.isBlank, Text.isBlank b = true :=
      fun _ hm => List.mem_takeWhile_imp hm
    have hsplit : rest.takeWhile Text.isBlank ++ c :: tail = rest := by
      rw [← hdrop, List.takeWhile_append_dropWhile]
    have hc : Text.isBlank c = false := Text.isBlank_of_dropWhile hdrop
    have hbegin : Border (before ++ rest.takeWhile Text.isBlank) (c :: tail) := by
      -- in front of the character is a blank, or what was in front of the blanks
      intro a ha b hb hword
      rcases List.eq_nil_or_concat' (rest.takeWhile Text.isBlank) with hnil | ⟨blanks, d, hd⟩
      · rw [hnil, List.append_nil] at ha
        rw [hnil, List.nil_append] at hsplit
        exact hborder a ha b (by rw [← hsplit]; exact hb) hword
      · rw [hd, ← List.append_assoc, List.getLast?_concat, Option.mem_some] at ha
        have hblank := hblanks d (by rw [hd]; simp)
        rw [ha, (apart_of_isWordPart hword).1] at hblank
        cases hblank
    have hshape := shape_lexeme hc hbegin
    have hlength : Text.byteLength (before ++ rest.takeWhile Text.isBlank ++ l.text) =
        begin + Text.byteLength l.text := by
      rw [Text.byteLength_append, Text.byteLength_append, hstart]
    have h := Divides.cons hblanks hshape (ih hshape.border hlength)
    rwa [Lexeme.text_append_rest, hsplit, hstart] at h

end Token

/-- No token of a line is the end of it. -/
theorem Cursor.Leads.kind_ne_finish {line : String} {c : Cursor} (h : (ofLine line).Leads c) :
    ∀ t ∈ c.pending, t.kind ≠ .finish :=
  fun _ ht => (Token.divides_scan (Token.border_nil line.toList)).kind_ne_finish
    (h.suffix.subset ht)

end DriverBench
