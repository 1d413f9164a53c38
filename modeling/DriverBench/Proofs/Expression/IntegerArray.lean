import DriverBench.Proofs.Expression.Grammar
import DriverBench.Proofs.Number.Element
import DriverBench.Proofs.Simulator.Bytes
/-!
# Arrays of integers

An array of an integer type is written as the word of the type and, in parentheses, its elements
with commas between them; blanks may stand around everything (`WrittenArray`). Its tokens can be
told from how it is written, and then the grammar of expressions says what it denotes. Where some
element is no value of the type, the elements in front of the first such one are read as ever, and
the failure is at that one: this is an induction on the elements in front.
-/

namespace DriverBench

open Device Number Simulator

namespace Expression

/-! ## How arrays are written -/

/-- An element as it stands between its neighbours: an integer in the usual writing, with blanks
around it. -/
structure WrittenElement where
  left : String
  text : String
  right : String
  value : Int
  blank_left : Text.Blank left
  writes : Signed UsualDecimal text.toList value
  blank_right : Text.Blank right

/-- An array as it stands in a line, its type apart: blanks in front of the word of the type and
behind it, and the elements. -/
structure WrittenArray where
  lead : String
  gap : String
  elements : List WrittenElement
  blank_lead : Text.Blank lead
  blank_gap : Text.Blank gap
  ne_nil : elements ≠ []

namespace WrittenElement

/-- All that stands between two commas. -/
def chars (e : WrittenElement) : List Char :=
  e.left.toList ++ e.text.toList ++ e.right.toList

/-- The token of an element whose first byte, blanks included, is at `start`. -/
def token (e : WrittenElement) (start : Nat) : Token :=
  ⟨.constant, start + Text.byteLength e.left.toList, e.text⟩

/-- An integer as it is printed, without blanks. -/
def ofInt (v : Int) : WrittenElement where
  left := ""
  text := toString v
  right := ""
  value := v
  blank_left := by decide
  writes := signed_toString v
  blank_right := by decide

end WrittenElement

/-- Elements with commas between them. -/
def elementChars (es : List WrittenElement) : List Char :=
  [','].intercalate (es.map WrittenElement.chars)

/-- What stands in front of an element: those before it, each with its comma. -/
def frontChars (es : List WrittenElement) : List Char :=
  es.flatMap fun e => e.chars ++ [',']

/-- The tokens of elements from a place on. -/
def elementTokens (start : Nat) : List WrittenElement → List Token
  | [] => []
  | [e] => [e.token start]
  | e :: e' :: es =>
    e.token start :: ⟨.comma, start + Text.byteLength e.chars, ","⟩ ::
      elementTokens (start + Text.byteLength e.chars + 1) (e' :: es)

namespace WrittenArray

/-- What stands in front of the elements of an array of a type. -/
def opening (a : WrittenArray) (T : IntegerType) : List Char :=
  a.lead.toList ++ T.name.toList ++ a.gap.toList ++ ['(']

/-- An array of a type. -/
def chars (a : WrittenArray) (T : IntegerType) : List Char :=
  a.opening T ++ elementChars a.elements ++ [')']

/-- The integers that are written. -/
def values (a : WrittenArray) : List Int :=
  a.elements.map (·.value)

end WrittenArray

/-! ## The tokens of an array -/

section Tokens

variable {T : IntegerType} {start : Nat} {after : List Char}

/-- An element in front of a sign is a constant in front of that sign. -/
theorem scan_element {kind : TokenKind} {mark : Char} (e : WrittenElement)
    (hmark : (kind, mark) ∈ Token.signs) :
    Token.scan start (e.chars ++ mark :: after) =
      e.token start :: ⟨kind, start + Text.byteLength e.chars, String.ofList [mark]⟩ ::
        Token.scan (start + Text.byteLength e.chars + Text.byteLength [mark]) after := by
  have hword : Token.isWordPart mark = false :=
    (Token.apart_of_signKind? (Token.mem_signs_iff.1 hmark)).2
  have hbehind : ∀ c ∈ (e.right.toList ++ mark :: after).head?, Token.isWordPart c = false := by
    refine Token.isWordPart_of_blanks e.blank_right fun _ c hc => ?_
    rwa [← Option.some.inj hc]
  have hchars : e.chars ++ mark :: after =
      e.left.toList ++ (e.text.toList ++ (e.right.toList ++ mark :: after)) := by
    simp only [WrittenElement.chars, List.append_assoc]
  rw [hchars, Token.scan_of_shape e.blank_left (e.writes.numeral.shape hbehind),
    Token.scan_sign e.blank_right hmark, String.ofList_toList, WrittenElement.token,
    WrittenElement.chars, Text.byteLength_append, Text.byteLength_append]
  simp only [Nat.add_assoc]

theorem elementChars_singleton (e : WrittenElement) : elementChars [e] = e.chars := by
  simp [elementChars, List.intercalate]

theorem elementChars_cons (e e' : WrittenElement) (es : List WrittenElement) :
    elementChars (e :: e' :: es) = e.chars ++ ',' :: elementChars (e' :: es) := by
  simp [elementChars, List.intercalate]

/-- An element among others stands behind what is in front of it. -/
theorem exists_elementChars (before : List WrittenElement) (e : WrittenElement)
    (after : List WrittenElement) : ∃ behind, elementChars (before ++ e :: after) =
      frontChars before ++ e.left.toList ++ e.text.toList ++ behind := by
  induction before with
  | nil =>
    cases after with
    | nil => exact ⟨e.right.toList, elementChars_singleton e⟩
    | cons e' after =>
      refine ⟨e.right.toList ++ ',' :: elementChars (e' :: after), ?_⟩
      rw [List.nil_append, elementChars_cons]
      simp only [WrittenElement.chars, List.append_assoc]
      rfl
  | cons x before ih =>
    obtain ⟨behind, hchars⟩ := ih
    refine ⟨behind, ?_⟩
    have hcons : elementChars (x :: (before ++ e :: after)) =
        x.chars ++ ',' :: elementChars (before ++ e :: after) := by
      cases before <;> exact elementChars_cons x _ _
    rw [List.cons_append, hcons, hchars, frontChars, frontChars, List.flatMap_cons]
    simp only [List.append_assoc, List.cons_append, List.nil_append]

/-- **The tokens of elements** are constants with commas between them. -/
theorem scan_elements {es : List WrittenElement} (hne : es ≠ []) :
    Token.scan start (elementChars es ++ ')' :: after) =
      elementTokens start es ++ ⟨.closeParen, start + Text.byteLength (elementChars es), ")"⟩ ::
        Token.scan (start + Text.byteLength (elementChars es) + 1) after := by
  have hcomma : (TokenKind.comma, ',') ∈ Token.signs := by decide
  have hclose : (TokenKind.closeParen, ')') ∈ Token.signs := by decide
  induction es generalizing start with
  | nil => exact absurd rfl hne
  | cons e es ih =>
    cases es with
    | nil =>
      rw [elementChars_singleton, scan_element e hclose]
      rfl
    | cons e' es =>
      have hlength : Text.byteLength (e.chars ++ ',' :: elementChars (e' :: es)) =
          Text.byteLength e.chars + 1 + Text.byteLength (elementChars (e' :: es)) := by
        rw [Text.byteLength_append, Text.byteLength_cons, Nat.add_assoc]
        rfl
      rw [elementChars_cons, List.append_assoc, List.cons_append, scan_element e hcomma,
        hlength, elementTokens]
      have hrest : Token.scan (start + Text.byteLength e.chars + 1)
          (elementChars (e' :: es) ++ ')' :: after) = _ := ih (List.cons_ne_nil _ _)
      simp only [← Nat.add_assoc]
      exact congrArg (_ :: _ :: ·) hrest

theorem isName_name (T : IntegerType) : Token.IsName T.name.toList where
  ne_nil := by cases T <;> decide
  parts := List.all_eq_true.1 (by cases T <;> decide)
  not_number h := by
    have hnumber := (Token.looksLikeNumber_iff _).2 h
    cases T <;> cases hnumber

/-- **The tokens of an array**, in front of whatever follows it. -/
theorem scan_array (a : WrittenArray) (T : IntegerType) :
    ∃ word opening closing, word.kind = .word ∧ word.text = T.name ∧ opening.kind = .openParen ∧
      closing.kind = .closeParen ∧
      Token.scan start (a.chars T ++ after) =
        word :: opening :: elementTokens (start + Text.byteLength (a.opening T)) a.elements ++
          closing :: Token.scan (start + Text.byteLength (a.chars T)) after := by
  have hopen : (TokenKind.openParen, '(') ∈ Token.signs := by decide
  have hbehind : ∀ rest : List Char, ∀ c ∈ (a.gap.toList ++ '(' :: rest).head?,
      Token.isWordPart c = false := by
    intro rest
    refine Token.isWordPart_of_blanks a.blank_gap fun _ c hc => ?_
    obtain rfl := Option.some.inj hc
    decide
  have hchars : a.chars T ++ after = a.lead.toList ++ (T.name.toList ++
      (a.gap.toList ++ '(' :: (elementChars a.elements ++ ')' :: after))) := by
    simp only [WrittenArray.chars, WrittenArray.opening, List.append_assoc, List.cons_append,
      List.nil_append]
  have hopening : start + Text.byteLength a.lead.toList + Text.byteLength T.name.toList +
      Text.byteLength a.gap.toList + Text.byteLength ['('] =
        start + Text.byteLength (a.opening T) := by
    simp only [WrittenArray.opening, Text.byteLength_append, Nat.add_assoc]
  have hwhole : start + Text.byteLength (a.opening T) +
      Text.byteLength (elementChars a.elements) + 1 = start + Text.byteLength (a.chars T) := by
    simp only [WrittenArray.chars, Text.byteLength_append, Nat.add_assoc]
    rfl
  let inside := start + Text.byteLength (a.opening T)
  refine ⟨⟨.word, start + Text.byteLength a.lead.toList, T.name⟩,
    ⟨.openParen, start + Text.byteLength a.lead.toList + Text.byteLength T.name.toList +
      Text.byteLength a.gap.toList, "("⟩,
    ⟨.closeParen, inside + Text.byteLength (elementChars a.elements), ")"⟩, rfl, rfl, rfl, rfl, ?_⟩
  rw [hchars, (isName_name T).scan_eq a.blank_lead (hbehind _), Token.scan_sign a.blank_gap hopen,
    hopening, scan_elements a.ne_nil, hwhole, String.ofList_toList]
  rfl

end Tokens

/-! ## What an array denotes -/

variable {T : IntegerType} {start : Nat} {line : String} {s : Session} {read : List UInt8}

/-- An element that the type holds has the bytes of its value. -/
theorem WrittenElement.bytesOf_text {e : WrittenElement} (h : T.Holds e.value) :
    (ElementType.integer T).bytesOf e.text = .ok (T.bytes e.value) := by
  rw [bytesOf_integer, IntegerType.read_of_usual e.writes h]
  rfl

/-- Elements that the type holds are constants of it, and their bytes stand one after the other. -/
theorem constants_elementTokens {es : List WrittenElement} (hne : es ≠ [])
    (h : ∀ e ∈ es, T.Holds e.value) :
    Constants (.integer T) (elementTokens start es) (es.flatMap fun e => T.bytes e.value) := by
  induction es generalizing start with
  | nil => exact absurd rfl hne
  | cons e es ih =>
    have hread := WrittenElement.bytesOf_text (h e List.mem_cons_self)
    cases es with
    | nil =>
      rw [List.flatMap_singleton]
      exact .last rfl hread
    | cons e' es =>
      rw [List.flatMap_cons]
      exact .more rfl hread rfl
        (ih (List.cons_ne_nil _ _) fun x hx => h x (List.mem_cons_of_mem _ hx))

theorem mem_all_of_ne_size (hT : T ≠ .size) : ElementType.integer T ∈ ElementType.all := by
  cases T <;> first | decide | exact absurd rfl hT

end Expression

namespace Reading

open Expression

variable {T : IntegerType} {start : Nat} {line : String} {s : Session} {read : List UInt8}

/-- An element that is no constant of the type is where reading the elements fails. -/
theorem run_arrayElement_of_error {t : Token} {more : List Token} {error : ConstantError}
    (ht : t.kind = .constant) (hread : T.read t.text = .error error) :
    (arrayElement (.integer T) read).run ⟨line, t :: more⟩ s =
      ((.error ((Fault.constant error).atSpan t.span), ⟨line, more⟩), s) := by
  have htoken : Gives (constantToken "配列の要素") ⟨line, t :: more⟩ s t ⟨line, more⟩ s :=
    gives_constantToken ht
  rw [arrayElement, htoken.bind_run, bytesOf_integer, hread]
  rfl

/-- **The first element that is not read is where reading all of them fails.** Those in front of it
are read, each with the comma behind it. -/
theorem run_elements_of_error {before after : List WrittenElement} {e : WrittenElement}
    {rest : List Token} {error : ConstantError} (hbefore : ∀ x ∈ before, T.Holds x.value)
    (he : T.read e.text = .error error) :
    ∃ c', (loop (arrayElement (.integer T)) read).run
        ⟨line, elementTokens start (before ++ e :: after) ++ rest⟩ s =
      ((.error ((Fault.constant error).atSpan
        (e.token (start + Text.byteLength (frontChars before))).span), c'), s) := by
  induction before generalizing start read with
  | nil =>
    obtain ⟨more, htokens⟩ : ∃ more, elementTokens start (e :: after) ++ rest =
        e.token start :: more := by
      cases after with
      | nil => exact ⟨rest, rfl⟩
      | cons e' after => exact ⟨_, rfl⟩
    rw [List.nil_append, htokens]
    exact ⟨_, run_loop_of_error (run_arrayElement_of_error rfl he)⟩
  | cons x before ih =>
    let next := start + Text.byteLength x.chars + 1
    let others := elementTokens next (before ++ e :: after) ++ rest
    obtain ⟨comma, hcomma, htokens⟩ : ∃ comma : Token, comma.kind = .comma ∧
        elementTokens start (x :: before ++ e :: after) ++ rest =
          x.token start :: comma :: others := by
      cases before with
      | nil => exact ⟨_, rfl, rfl⟩
      | cons x' before => exact ⟨_, rfl, rfl⟩
    have hnext : Gives (arrayElement (.integer T) read)
        ⟨line, x.token start :: comma :: others⟩ s (.next (read ++ T.bytes x.value))
        ⟨line, others⟩ s :=
      gives_arrayElement_iff.2 ⟨_, comma, _, rfl, rfl, rfl, rfl,
        WrittenElement.bytesOf_text (hbefore x List.mem_cons_self), .inl ⟨hcomma, rfl⟩⟩
    have hfront : start + Text.byteLength (frontChars (x :: before)) =
        next + Text.byteLength (frontChars before) := by
      rw [frontChars, List.flatMap_cons, Text.byteLength_append, Text.byteLength_append,
        ← Nat.add_assoc, ← Nat.add_assoc]
      rfl
    rw [htokens, run_loop_of_next hnext (by simp), hfront]
    exact ih fun y hy => hbefore y (List.mem_cons_of_mem _ hy)

section Array

variable {word opening closing : Token} {es : List WrittenElement} {rest : List Token}

theorem gives_integer_array (hT : T ≠ .size) (hfree : s.env.lookup T.name = none)
    (hword : word.kind = .word) (hname : word.text = T.name) (hopening : opening.kind = .openParen)
    (hclosing : closing.kind = .closeParen) (hne : es ≠ []) (hheld : ∀ e ∈ es, T.Holds e.value) :
    Gives evaluate ⟨line, word :: opening :: elementTokens start es ++ closing :: rest⟩ s
      ⟨s.entities, .data ⟨es.flatMap fun e => T.bytes e.value, T.name ++ " data"⟩⟩ ⟨line, rest⟩
      { s with entities := s.entities + 1 } := by
  have hexpression : Expresses s.env (word :: opening :: elementTokens start es ++ [closing])
      (.array (.integer T) (es.flatMap fun e => T.bytes e.value)) :=
    .array hword (by rw [hname]; exact hfree) (mem_all_of_ne_size hT) hname hopening
      (constants_elementTokens hne hheld) hclosing
  have hgives : Gives evaluate ⟨line, _ ++ rest⟩ s _ _ _ :=
    gives_evaluate_of_expresses hexpression
  rw [List.append_assoc] at hgives
  exact hgives

theorem run_integer_array_of_error {before after : List WrittenElement} {e : WrittenElement}
    {error : ConstantError} (hT : T ≠ .size) (hfree : s.env.lookup T.name = none)
    (hword : word.kind = .word) (hname : word.text = T.name) (hopening : opening.kind = .openParen)
    (hbefore : ∀ x ∈ before, T.Holds x.value) (he : T.read e.text = .error error) :
    ∃ c', evaluate.run
        ⟨line, word :: opening :: elementTokens start (before ++ e :: after) ++ rest⟩ s =
      ((.error ((Fault.constant error).atSpan
        (e.token (start + Text.byteLength (frontChars before))).span), c'), s) := by
  have hconstructor : Constructor.ofKeyword? word.text = some (.array (.integer T)) := by
    rw [hname]
    exact ofKeyword?_type _ (mem_all_of_ne_size hT)
  have hnobound : s.env.lookup word.text = none := by
    rw [hname]
    exact hfree
  let inside := elementTokens start (before ++ e :: after) ++ rest
  have hloop : ∃ c', (loop (arrayElement (.integer T)) []).run ⟨line, inside⟩ s = ((_, c'), s) :=
    run_elements_of_error hbefore he
  obtain ⟨c', hloop⟩ := hloop
  have hopen : Gives (openArguments (Constructor.array (.integer T)).keyword)
      ⟨line, opening :: inside⟩ s () ⟨line, inside⟩ s := gives_openArguments hopening
  rw [List.cons_append, List.cons_append]
  refine ⟨c', run_evaluate_of_error hword hnobound hconstructor ?_⟩
  rw [construct, hopen.bind_run, arrayObject, run_bind, hloop]

end Array

/-- **Arrays of integers come back.** An array of any type but that of sizes, of integers in the
usual writing, in front of whatever follows it, where the word of the type is no bound name: if the
type holds all of them, exactly the array is taken, and what is made are data with the label of the
type, which hold the bytes of the integers one after the other, so that each stretch of the type's
width denotes its integer again. Otherwise evaluation fails, and the failure points at the first
integer that the type does not hold, from its first to its last character. -/
theorem evaluate_integer_array (T : IntegerType) (hT : T ≠ .size) (a : WrittenArray) (line : String)
    (start : Nat) (rest : List Char) (s : Session) (hfree : s.env.lookup T.name = none) :
    ((∀ v ∈ a.values, T.Holds v) → ∃ bytes,
      evaluate.run ⟨line, Token.scan start (a.chars T ++ rest)⟩ s =
        ((.ok ⟨s.entities, .data ⟨bytes, T.name ++ " data"⟩⟩,
            ⟨line, Token.scan (start + Text.byteLength (a.chars T)) rest⟩),
          { s with entities := s.entities + 1 }) ∧
      bytes = a.values.flatMap T.bytes ∧ bytes.length = a.values.length * T.width ∧
      ∀ i v, a.values[i]? = some v → T.ofBytes (slice bytes (i * T.width) T.width) = v) ∧
    ∀ before e after, a.elements = before ++ e :: after → (∀ x ∈ before, T.Holds x.value) →
      ¬ T.Holds e.value → ∃ front behind error c',
        front = a.opening T ++ frontChars before ++ e.left.toList ∧
        a.chars T = front ++ e.text.toList ++ behind ∧ T.read e.text = .error error ∧
        evaluate.run ⟨line, Token.scan start (a.chars T ++ rest)⟩ s =
          ((.error ⟨.constant error, some ⟨start + Text.byteLength front,
            start + Text.byteLength front + Text.byteLength e.text.toList⟩⟩, c'), s) := by
  have htokens : ∃ word opening closing, _ ∧ _ ∧ _ ∧ _ ∧
      Token.scan start (a.chars T ++ rest) = _ := scan_array a T
  obtain ⟨word, opening, closing, hword, hname, hopening, hclosing, hscan⟩ := htokens
  rw [hscan]
  constructor
  · intro hvalues
    have hheld : ∀ e ∈ a.elements, T.Holds e.value :=
      fun e he => hvalues e.value (List.mem_map_of_mem he)
    have hflat : (a.elements.flatMap fun e => T.bytes e.value) = a.values.flatMap T.bytes := by
      rw [WrittenArray.values, List.flatMap_map]
    let inside := elementTokens (start + Text.byteLength (a.opening T)) a.elements
    let behind := Token.scan (start + Text.byteLength (a.chars T)) rest
    have hgives : Gives evaluate ⟨line, word :: opening :: inside ++ closing :: behind⟩ s
        _ ⟨line, behind⟩ _ :=
      gives_integer_array hT hfree hword hname hopening hclosing a.ne_nil hheld
    rw [hflat] at hgives
    refine ⟨a.values.flatMap T.bytes, hgives, rfl, ?_, fun i v hv => ?_⟩
    · rw [List.length_flatMap]
      simp [T.length_bytes]
    · have hchunk : (a.values.map T.bytes)[i]? = some (T.bytes v) := by
        rw [List.getElem?_map, hv]
        rfl
      have hwidths : ∀ c ∈ a.values.map T.bytes, c.length = T.width := by
        intro c hc
        obtain ⟨w, -, rfl⟩ := List.mem_map.1 hc
        exact T.length_bytes w
      have hslice := slice_flatten hwidths hchunk []
      rw [List.append_nil, ← List.flatMap_def] at hslice
      rw [hslice, IntegerType.ofBytes_bytes (hvalues v (List.mem_of_getElem? hv))]
  · intro before e after helements hbefore he
    obtain ⟨error, herror⟩ := IntegerType.exists_error_of_not_holds e.writes.numeral he
    obtain ⟨behind, hchars⟩ := exists_elementChars before e after
    obtain ⟨c', hrun⟩ := run_integer_array_of_error hT hfree hword hname hopening hbefore herror
    refine ⟨a.opening T ++ frontChars before ++ e.left.toList, behind ++ [')'], error, c', rfl, ?_,
      herror, ?_⟩
    · simp only [WrittenArray.chars, helements, hchars, List.append_assoc]
    · rw [helements, List.append_assoc]
      refine hrun.trans ?_
      simp only [Text.byteLength_append, ← Nat.add_assoc]
      rfl

/-- The array ` short ( -32768,7,32767)`. -/
def shortExtremes : WrittenArray where
  lead := " "
  gap := " "
  elements := [{ WrittenElement.ofInt (-32768) with left := " ", blank_left := by decide },
    .ofInt 7, .ofInt 32767]
  blank_lead := by decide
  blank_gap := by decide
  ne_nil := List.cons_ne_nil _ _

/-- The array `uchar(255, 256 ,-1)`, the first element of which is the greatest one. -/
def beyondBytes : WrittenArray where
  lead := ""
  gap := ""
  elements := [.ofInt 255, { WrittenElement.ofInt 256 with
    left := " ", right := " ", blank_left := by decide, blank_right := by decide }, .ofInt (-1)]
  blank_lead := by decide
  blank_gap := by decide
  ne_nil := List.cons_ne_nil _ _

/-- Both extremes of a type come back, in front of a name; one more than the greatest value is
pointed at, without the blanks around it. -/
theorem evaluate_extremes :
    (IntegerType.short ≠ .size ∧ imageBound.env.lookup "short" = none ∧
      evaluate.run (Cursor.ofLine " short ( -32768,7,32767) image") imageBound =
        ((.ok ⟨1, .data ⟨[0, 128, 7, 0, 255, 127], "short data"⟩⟩,
            ⟨" short ( -32768,7,32767) image", [⟨.word, 25, "image"⟩]⟩),
          { imageBound with entities := 2 })) ∧
    IntegerType.uchar ≠ .size ∧ imageBound.env.lookup "uchar" = none ∧
      ∃ error c', evaluate.run (Cursor.ofLine "uchar(255, 256 ,-1)") imageBound =
        ((.error ⟨.constant error, some ⟨11, 14⟩⟩, c'), imageBound) := by
  have hshort : shortExtremes.chars .short ++ " image".toList =
      " short ( -32768,7,32767) image".toList := by decide +kernel
  have huchar : beyondBytes.chars .uchar ++ [] = "uchar(255, 256 ,-1)".toList := by decide +kernel
  refine ⟨⟨by decide, by decide, ?_⟩, by decide, by decide, ?_⟩
  · have hheld : ∀ v ∈ shortExtremes.values, IntegerType.short.Holds v := by decide +kernel
    obtain ⟨bytes, hrun, hbytes, -, -⟩ := (evaluate_integer_array .short (by decide) shortExtremes
      " short ( -32768,7,32767) image" 0 " image".toList imageBound (by decide)).1 hheld
    rw [hshort, hbytes] at hrun
    refine hrun.trans ?_
    have hrest : Token.scan (0 + Text.byteLength (shortExtremes.chars .short)) " image".toList =
        [⟨.word, 25, "image"⟩] := by decide +kernel
    have hvalues : shortExtremes.values.flatMap IntegerType.short.bytes =
        [0, 128, 7, 0, 255, 127] := by decide +kernel
    rw [hrest, hvalues]
    rfl
  · obtain ⟨front, behind, error, c', hfront, -, -, hrun⟩ :=
      (evaluate_integer_array .uchar (by decide) beyondBytes "uchar(255, 256 ,-1)" 0 [] imageBound
        (by decide)).2 [.ofInt 255] _ [.ofInt (-1)] rfl (by decide +kernel) (by decide +kernel)
    rw [huchar] at hrun
    refine ⟨error, c', hrun.trans ?_⟩
    have hlength : Text.byteLength front = 11 := by
      rw [hfront]
      decide +kernel
    rw [hlength]
    rfl

end Reading

end DriverBench
