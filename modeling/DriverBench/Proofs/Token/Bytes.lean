import DriverBench.Proofs.Token.Grammar
/-!
# Scanning by bytes

A line is held as bytes, and a scanner that goes along them by their numbers need not know
characters. Two things could go wrong in that and do not. A place reached byte by byte could be
inside a character, where the line cannot be cut; but the scanner cuts only where a token begins or
a word ends. And of what a backslash keeps from closing a quote, the scanner passes over one byte,
be it a whole character or the beginning of one; the later bytes of a character are neither quotes
nor backslashes and are passed over for that.

So the tokens of the bytes are those of the characters (`tokensFrom?_eq`), and what is true of the
division of a line into characters is true of its bytes.
-/

namespace DriverBench.Token

namespace Bytes

open Text (Reads isBlankByte reads_isBlank)

/-! ## The scanner -/

/-- The bytes of the digits. -/
def isDigitByte (b : UInt8) : Bool :=
  0x30 ≤ b && b ≤ 0x39

/-- The bytes of words: those of letters and digits, and of `_`, `-`, `+`, `~`, `.`, `/`
and the apostrophe. -/
def isWordByte (b : UInt8) : Bool :=
  isDigitByte b || (0x41 ≤ b && b ≤ 0x5A) || (0x61 ≤ b && b ≤ 0x7A) || b == 0x5F || b == 0x2D ||
    b == 0x2B || b == 0x7E || b == 0x2E || b == 0x2F || b == 0x27

/-- The sign that a byte is. -/
def signOfByte? (b : UInt8) : Option TokenKind :=
  if b = 0x3D then some .equal
  else if b = 0x2C then some .comma
  else if b = 0x28 then some .openParen
  else if b = 0x29 then some .closeParen
  else none

/-- The first place from `i` on where no byte of the class is. -/
def skipWhile (p : UInt8 → Bool) (bytes : List UInt8) (i : Nat) : Nat :=
  if h : i < bytes.length then
    if p bytes[i] then skipWhile p bytes (i + 1) else i
  else i
termination_by bytes.length - i

/-- The place behind the quote that closes a text, sought from `i` on. -/
def closing? (bytes : List UInt8) (i : Nat) : Option Nat :=
  if h : i < bytes.length then
    if bytes[i] = 0x5C then closing? bytes (i + 2)
    else if bytes[i] = 0x22 then some (i + 1)
    else closing? bytes (i + 1)
  else none
termination_by bytes.length - i

/-- Whether a text starts with a digit, or with a sign and a digit. -/
def looksLikeNumber (bytes : List UInt8) : Bool :=
  let digits := if bytes.head? = some 0x2B ∨ bytes.head? = some 0x2D then bytes.tail else bytes
  digits.head?.any isDigitByte

/-- The part of a line in a range. There is none when an end of the range is inside a character. -/
def part? (line : String) (sp : Span) : Option (List Char) := do
  let (_, rest) ← Text.splitAtByte? sp.start line.toList
  let (part, _) ← Text.splitAtByte? (sp.stop - sp.start) rest
  return part

/-- The number of bytes of the character at a place. There is none inside a character. -/
def width? (line : String) (i : Nat) : Option Nat := do
  let (_, rest) ← Text.splitAtByte? i line.toList
  return rest.head?.elim 1 Char.utf8Size

/-- The token that begins at the place `pos` with the byte `b`: its kind and its range. -/
def begun? (line : String) (pos : Nat) (b : UInt8) : Option (TokenKind × Span) :=
  let bytes := Text.bytesOf line
  match signOfByte? b with
  | some kind => some (kind, ⟨pos, pos + 1⟩)
  | none =>
    if b = 0x22 then
      match closing? bytes (pos + 1) with
      | some stop => some (.quoted, ⟨pos, stop⟩)
      | none => some (.invalid, ⟨pos, bytes.length⟩)
    else
      let stop := skipWhile isWordByte bytes pos
      if stop = pos then
        (width? line pos).map fun width => (.invalid, ⟨pos, pos + width⟩)
      else
        (part? line ⟨pos, stop⟩).map fun word =>
          (if looksLikeNumber (Text.encode word) then .constant else .word, ⟨pos, stop⟩)

/-- The first token at or behind a place. -/
def next? (line : String) (index : Nat) : Option (TokenKind × Span) :=
  let bytes := Text.bytesOf line
  let pos := skipWhile isBlankByte bytes (min index bytes.length)
  match bytes[pos]? with
  | some b => begun? line pos b
  | none => some (.finish, ⟨pos, pos⟩)

/-! ## Every token is ahead of the one before it -/

theorem le_skipWhile (p : UInt8 → Bool) (bytes : List UInt8) (i : Nat) :
    i ≤ skipWhile p bytes i := by
  fun_induction skipWhile p bytes i with
  | case1 i _ _ ih => exact Nat.le_trans (Nat.le_succ i) ih
  | case2 i => exact Nat.le_refl i
  | case3 i => exact Nat.le_refl i

theorem lt_of_closing? {bytes : List UInt8} {i stop : Nat} (h : closing? bytes i = some stop) :
    i < stop := by
  fun_induction closing? bytes i with
  | case1 i _ _ ih =>
    have := ih h
    omega
  | case2 i =>
    obtain rfl := Option.some.inj h
    exact Nat.lt_succ_self i
  | case3 i _ _ _ ih => exact Nat.lt_of_succ_lt (ih h)
  | case4 => cases h

theorem lt_of_begun? {line : String} {pos : Nat} {b : UInt8} {t : TokenKind × Span}
    (hpos : pos < (Text.bytesOf line).length) (h : begun? line pos b = some t) :
    pos < t.2.stop := by
  unfold begun? at h
  dsimp only at h
  split at h
  · obtain rfl := Option.some.inj h
    exact Nat.lt_succ_self pos
  split at h
  · split at h
    · next stop hstop =>
      obtain rfl := Option.some.inj h
      exact Nat.lt_of_succ_lt (lt_of_closing? hstop)
    · obtain rfl := Option.some.inj h
      exact hpos
  split at h
  · obtain ⟨width, hwidth, rfl⟩ := Option.map_eq_some_iff.1 h
    obtain ⟨⟨before, rest⟩, -, hrest⟩ := Option.bind_eq_some_iff.1 hwidth
    obtain rfl := Option.some.inj hrest
    refine Nat.lt_add_of_pos_right ?_
    cases rest with
    | nil => exact Nat.one_pos
    | cons c rest => exact Char.utf8Size_pos c
  · next hne =>
    obtain ⟨word, -, rfl⟩ := Option.map_eq_some_iff.1 h
    exact Nat.lt_of_le_of_ne (le_skipWhile _ _ _) (Ne.symm hne)

/-- A token ends behind the place from which it was sought, unless it is the end of the line. -/
theorem lt_of_next? {line : String} {index : Nat} {t : TokenKind × Span}
    (h : next? line index = some t) (hkind : t.1 ≠ .finish) :
    index < (Text.bytesOf line).length ∧ index < t.2.stop := by
  unfold next? at h
  dsimp only at h
  split at h
  · next b hb =>
    have hle := le_skipWhile isBlankByte (Text.bytesOf line) (min index (Text.bytesOf line).length)
    obtain ⟨hpos, -⟩ := List.getElem?_eq_some_iff.1 hb
    have hlt := lt_of_begun? hpos h
    omega
  · obtain rfl := Option.some.inj h
    exact absurd rfl hkind

/-- The tokens from a place on, up to the end of the line and with it. -/
def tokensFrom? (line : String) (index : Nat) : Option (List (TokenKind × Span)) :=
  match _h : next? line index with
  | none => none
  | some t =>
    if _hkind : t.1 = .finish then some [t]
    else (tokensFrom? line t.2.stop).map fun ts => t :: ts
termination_by (Text.bytesOf line).length - index
decreasing_by
  have := lt_of_next? _h _hkind
  omega

/-! ## Bytes and characters -/

theorem reads_isDigit : Reads isDigitByte Char.isDigit where
  ascii := by decide +kernel
  byte := by decide +kernel
  char c hc := by
    simp only [Char.isDigit, Bool.and_eq_true, decide_eq_true_eq, UInt32.le_iff_toNat_le] at hc
    exact Nat.lt_of_le_of_lt hc.2 (by decide)

theorem toNat_lt_of_isWordPart {c : Char} (hc : isWordPart c = true) : c.toNat < 0x80 := by
  have halpha : c.isAlpha = (c.isUpper || c.isLower) := rfl
  have hupper : c.isUpper = decide (c.val ≥ 'A'.val ∧ c.val ≤ 'Z'.val) := rfl
  have hlower : c.isLower = (decide (c.val ≥ 'a'.val) && decide (c.val ≤ 'z'.val)) := rfl
  simp only [isWordPart, Char.isAlphanum, halpha, hupper, hlower, Char.isDigit,
    Bool.or_eq_true, Bool.and_eq_true, decide_eq_true_eq, beq_iff_eq, UInt32.le_iff_toNat_le,
    ge_iff_le] at hc
  rcases hc with ((((((((⟨-, h⟩ | ⟨-, h⟩) | ⟨-, h⟩) | rfl) | rfl) | rfl) | rfl) | rfl) | rfl) | rfl
  all_goals first | exact Nat.lt_of_le_of_lt h (by decide) | decide

theorem reads_isWordPart : Reads isWordByte isWordPart where
  ascii := by decide +kernel
  byte := by decide +kernel
  char _ := toNat_lt_of_isWordPart

/-- The byte of a character of ASCII stands for that character. -/
theorem reads_char {c : Char} (hc : c.toNat < 0x80) :
    Reads (· == UInt8.ofNat c.toNat) (· == c) where
  ascii n hn := by
    have hnat : ∀ n < 0x80, (Char.ofNat n).toNat = n := by decide
    have hbyte : UInt8.ofNat n = UInt8.ofNat c.toNat ↔ n = c.toNat := by
      rw [← UInt8.toNat_inj, UInt8.toNat_ofNat_of_lt' (by simp [UInt8.size]; omega),
        UInt8.toNat_ofNat_of_lt' (by simp [UInt8.size]; omega)]
    have hchar : Char.ofNat n = c ↔ n = c.toNat := by
      constructor
      · rintro rfl
        exact (hnat n hn).symm
      · rintro rfl
        exact Char.ofNat_toNat c
    rw [Bool.eq_iff_iff, beq_iff_eq, beq_iff_eq, hbyte, hchar]
  byte n hn hge := by
    rw [beq_eq_false_iff_ne]
    intro h
    rw [← UInt8.toNat_inj, UInt8.toNat_ofNat_of_lt' (by simp [UInt8.size]; omega),
      UInt8.toNat_ofNat_of_lt' (by simp [UInt8.size]; omega)] at h
    omega
  char d hd := by
    obtain rfl := beq_iff_eq.1 hd
    exact hc

/-- A character of ASCII is known by the first byte. -/
theorem first_eq_iff (d : Char) {b lead : UInt8} {c : Char} {tail : List UInt8}
    (hd : d.toNat < 0x80 ∧ UInt8.ofNat d.toNat = lead)
    (hc : String.utf8EncodeChar c = b :: tail) : b = lead ↔ c = d := by
  rw [← hd.2, ← beq_iff_eq, ((reads_char hd.1).first hc).1, beq_iff_eq]

theorem signOfByte?_eq {c : Char} {b : UInt8} {tail : List UInt8}
    (hc : String.utf8EncodeChar c = b :: tail) : signOfByte? b = signKind? c := by
  have hequal : b = 0x3D ↔ c = '=' := first_eq_iff '=' (by decide) hc
  have hcomma : b = 0x2C ↔ c = ',' := first_eq_iff ',' (by decide) hc
  have hopen : b = 0x28 ↔ c = '(' := first_eq_iff '(' (by decide) hc
  have hclose : b = 0x29 ↔ c = ')' := first_eq_iff ')' (by decide) hc
  unfold signOfByte?
  simp only [hequal, hcomma, hopen, hclose]
  fun_cases signKind? c <;> simp_all

/-- A text starts with a digit just if its bytes do. -/
theorem any_isDigitByte_encode (cs : List Char) :
    (Text.encode cs).head?.any isDigitByte = cs.head?.any Char.isDigit := by
  cases cs with
  | nil => rfl
  | cons c cs =>
    obtain ⟨b, tail, hc, -⟩ := Text.encode_char_cases c
    rw [Text.encode_cons, hc, List.cons_append, List.head?_cons, Option.any_some, List.head?_cons,
      Option.any_some, (reads_isDigit.first hc).1]

theorem looksLikeNumber_encode (cs : List Char) :
    looksLikeNumber (Text.encode cs) = Token.looksLikeNumber cs := by
  cases cs with
  | nil => rfl
  | cons c cs =>
    obtain ⟨b, tail, hc, -⟩ := Text.encode_char_cases c
    have hplus : b = 0x2B ↔ c = '+' := first_eq_iff '+' (by decide) hc
    have hminus : b = 0x2D ↔ c = '-' := first_eq_iff '-' (by decide) hc
    have hhead : (Text.encode (c :: cs)).head? = some b := by
      rw [Text.encode_cons, hc]
      rfl
    have hnumber : Token.looksLikeNumber (c :: cs) =
        if c = '+' ∨ c = '-' then cs.head?.any Char.isDigit else c.isDigit := by
      by_cases hsign : c = '+' ∨ c = '-'
      · rw [if_pos hsign]
        rcases hsign with rfl | rfl <;> cases cs <;> rfl
      · rw [if_neg hsign]
        rw [not_or] at hsign
        rw [Token.looksLikeNumber.eq_def]
        split <;> simp_all
    unfold looksLikeNumber
    rw [hhead, hnumber]
    simp only [Option.some.injEq, hplus, hminus]
    by_cases hsign : c = '+' ∨ c = '-'
    · rw [if_pos hsign, if_pos hsign]
      have htail : (Text.encode (c :: cs)).tail = Text.encode cs := by
        rcases hsign with rfl | rfl <;> rfl
      rw [htail, any_isDigitByte_encode]
    · rw [if_neg hsign, if_neg hsign, any_isDigitByte_encode]
      rfl

variable {bytes : List UInt8} {i : Nat}

/-- What stands at a place, by what is left of the bytes there. -/
theorem getElem_of_drop {b : UInt8} {more : List UInt8} (h : bytes.drop i = b :: more) :
    ∃ hi : i < bytes.length, bytes[i] = b ∧ bytes.drop (i + 1) = more := by
  have hi : i < bytes.length := by
    by_contra hge
    rw [List.drop_of_length_le (by omega)] at h
    cases h
  rw [List.drop_eq_getElem_cons hi] at h
  obtain ⟨hb, hmore⟩ := List.cons.inj h
  exact ⟨hi, hb, hmore⟩

theorem drop_add_of_drop {before after : List UInt8} (h : bytes.drop i = before ++ after) :
    bytes.drop (i + before.length) = after := by
  rw [← List.drop_drop, h, List.drop_left]

/-- Of a text the scanner passes over the characters of the class. -/
theorem skipWhile_of_drop {p : UInt8 → Bool} {q : Char → Bool} (hpq : Reads p q) {cs : List Char}
    (h : bytes.drop i = Text.encode cs) :
    skipWhile p bytes i = i + Text.byteLength (cs.takeWhile q) := by
  induction cs generalizing i with
  | nil =>
    have hi : ¬ i < bytes.length := by
      have := List.drop_eq_nil_iff.1 h
      omega
    rw [skipWhile, dif_neg hi]
    rfl
  | cons c cs ih =>
    obtain ⟨b, tail, hc, -⟩ := Text.encode_char_cases c
    obtain ⟨hfirst, htail⟩ := hpq.first hc
    rw [Text.encode_cons, hc, List.cons_append] at h
    obtain ⟨hi, hb, hmore⟩ := getElem_of_drop h
    rw [skipWhile, dif_pos hi, hb, hfirst]
    by_cases hq : q c = true
    · rw [htail hq, List.nil_append] at hmore
      have hsize : c.utf8Size = 1 := by
        rw [← String.length_utf8EncodeChar, hc, htail hq, List.length_singleton]
      rw [if_pos hq, ih hmore, List.takeWhile_cons_of_pos hq, Text.byteLength_cons, hsize]
      omega
    · rw [if_neg hq, List.takeWhile_cons_of_neg hq]
      rfl

/-- Bytes that are not of ASCII close nothing. -/
theorem closing?_of_high {high more : List UInt8} (hhigh : ∀ d ∈ high, 0x80 ≤ d)
    (h : bytes.drop i = high ++ more) : closing? bytes i = closing? bytes (i + high.length) := by
  induction high generalizing i with
  | nil => rfl
  | cons d high ih =>
    have hd : (0x80 : UInt8) ≤ d := hhigh d List.mem_cons_self
    obtain ⟨hi, hb, hmore⟩ := getElem_of_drop h
    have hslash : d ≠ 0x5C := by
      rintro rfl
      exact absurd hd (by decide)
    have hquote : d ≠ 0x22 := by
      rintro rfl
      exact absurd hd (by decide)
    rw [closing?, dif_pos hi, hb, if_neg hslash, if_neg hquote,
      ih (fun e he => hhigh e (List.mem_cons_of_mem d he)) hmore, List.length_cons]
    congr 1
    omega

/-- **A quote is closed where the characters close it.** -/
theorem closing?_of_drop {cs : List Char} (h : bytes.drop i = Text.encode cs) :
    closing? bytes i = (closeQuote cs).map fun p => i + Text.byteLength p.1 := by
  fun_induction closeQuote cs generalizing i with
  | case1 =>
    have hi : ¬ i < bytes.length := by
      have := List.drop_eq_nil_iff.1 h
      omega
    rw [closing?, dif_neg hi]
    rfl
  | case2 rest =>
    obtain ⟨hi, hb, -⟩ := getElem_of_drop (b := 0x22) h
    rw [closing?, dif_pos hi, hb]
    rfl
  | case3 c rest ih =>
    -- one byte of the second character is passed over, the others close nothing
    obtain ⟨b, tail, hc, hcases⟩ := Text.encode_char_cases c
    have htail : ∀ d ∈ tail, 0x80 ≤ d := by
      rcases hcases with ⟨-, -, rfl⟩ | ⟨-, hall⟩
      · simp
      · exact fun d hd => hall d (List.mem_cons_of_mem b hd)
    rw [Text.encode_cons, Text.encode_cons, hc] at h
    have hpair : bytes.drop i = 0x5C :: b :: (tail ++ Text.encode rest) := h
    obtain ⟨hi, hb, hmore⟩ := getElem_of_drop hpair
    obtain ⟨-, -, hmore'⟩ := getElem_of_drop hmore
    have hlength : c.utf8Size = tail.length + 1 := by
      rw [← String.length_utf8EncodeChar, hc, List.length_cons]
    rw [closing?, dif_pos hi, hb, if_pos rfl, closing?_of_high htail hmore',
      ih (drop_add_of_drop hmore'), Option.map_map]
    congr 1
    funext p
    simp only [Function.comp, Text.byteLength_cons, hlength, show '\\'.utf8Size = 1 from rfl]
    omega
  | case4 =>
    obtain ⟨hi, hb, hmore⟩ := getElem_of_drop (b := 0x5C) h
    have hend : ¬ i + 2 < bytes.length := by
      have := List.drop_eq_nil_iff.1 hmore
      omega
    rw [closing?, dif_pos hi, hb, if_pos rfl, closing?, dif_neg hend]
    rfl
  | case5 c rest hquote hpair hlone ih =>
    have hslash : c ≠ '\\' := by
      rintro rfl
      cases rest with
      | nil => exact hlone rfl rfl
      | cons d rest => exact hpair d rest rfl rfl
    obtain ⟨b, tail, hc, hcases⟩ := Text.encode_char_cases c
    have hsize : c.utf8Size = (b :: tail).length := by
      rw [← hc, String.length_utf8EncodeChar]
    rw [Text.encode_cons, hc, List.cons_append] at h
    have hpass : closing? bytes i = closing? bytes (i + (b :: tail).length) := by
      rcases hcases with ⟨-, -, rfl⟩ | ⟨-, hall⟩
      · obtain ⟨hi, hb, -⟩ := getElem_of_drop h
        have hb₁ : b ≠ 0x5C := fun he => hslash ((first_eq_iff '\\' (by decide) hc).1 he)
        have hb₂ : b ≠ 0x22 := fun he => hquote ((first_eq_iff '"' (by decide) hc).1 he)
        rw [closing?, dif_pos hi, hb, if_neg hb₁, if_neg hb₂]
        rfl
      · exact closing?_of_high hall h
    rw [hpass, ih (drop_add_of_drop h), Option.map_map]
    congr 1
    funext p
    simp only [Function.comp, Text.byteLength_cons, hsize]
    omega

/-! ## The tokens of the bytes -/

variable {line : String} {before rest : List Char}

theorem drop_bytesOf (h : before ++ rest = line.toList) :
    (Text.bytesOf line).drop (Text.byteLength before) = Text.encode rest := by
  rw [Text.bytesOf, ← h, Text.encode_append, ← Text.length_encode, List.drop_left]

/-- The part of a line between two characters can be cut out of it. -/
theorem part?_eq {marked after : List Char} (h : before ++ (marked ++ after) = line.toList) :
    part? line ⟨Text.byteLength before, Text.byteLength before + Text.byteLength marked⟩ =
      some marked := by
  unfold part?
  rw [← h, Text.splitAtByte?_append]
  dsimp only [Option.bind_eq_bind, Option.bind_some]
  rw [Nat.add_sub_cancel_left, Text.splitAtByte?_append]
  rfl

theorem width?_eq {c : Char} (h : before ++ c :: rest = line.toList) :
    width? line (Text.byteLength before) = some c.utf8Size := by
  unfold width?
  rw [← h, Text.splitAtByte?_append]
  rfl

/-- What a token takes from the bytes is what it takes from the characters. -/
theorem begun?_eq {c : Char} {b : UInt8} {tail : List UInt8}
    (h : before ++ c :: rest = line.toList) (hc : String.utf8EncodeChar c = b :: tail) :
    begun? line (Text.byteLength before) b = some ((lexeme c rest).kind,
      ⟨Text.byteLength before, Text.byteLength before + Text.byteLength (lexeme c rest).text⟩) := by
  have hquote : b = 0x22 ↔ c = '"' := first_eq_iff '"' (by decide) hc
  have hdrop := drop_bytesOf h
  unfold begun? lexeme
  rw [signOfByte?_eq hc]
  cases hsign : signKind? c with
  | some kind =>
    have hsize : c.utf8Size = 1 := by
      unfold signKind? at hsign
      split at hsign <;> cases hsign <;> rfl
    dsimp only
    rw [Text.byteLength_cons, hsize]
    rfl
  | none =>
    dsimp only
    by_cases hq : c = '"'
    · subst hq
      rw [if_pos (hquote.2 rfl), if_pos rfl]
      obtain ⟨-, -, hrest⟩ := getElem_of_drop (b := 0x22) hdrop
      rw [closing?_of_drop hrest]
      cases hclose : closeQuote rest with
      | some closed =>
        simp only [Option.map_some, Text.byteLength_cons, Nat.add_assoc]
        rfl
      | none =>
        dsimp only [Option.map_none]
        rw [Text.bytesOf, Text.length_encode, ← h, Text.byteLength_append]
    rw [if_neg (mt hquote.1 hq), if_neg hq, skipWhile_of_drop reads_isWordPart hdrop]
    by_cases hword : isWordPart c = true
    · rw [List.takeWhile_cons_of_pos hword, if_pos hword]
      have hpos := Char.utf8Size_pos c
      have hsplit : before ++ (c :: rest.takeWhile isWordPart ++ rest.dropWhile isWordPart) =
          line.toList := by
        rw [List.cons_append, List.takeWhile_append_dropWhile, h]
      rw [if_neg (by rw [Text.byteLength_cons]; omega), part?_eq hsplit, Option.map_some,
        looksLikeNumber_encode]
      rfl
    · have hnothing : Text.byteLength before + Text.byteLength [] = Text.byteLength before :=
        Nat.add_zero _
      rw [List.takeWhile_cons_of_neg hword, if_neg hword, if_pos hnothing, width?_eq h]
      rfl

/-- What the next token takes is what it takes from the characters behind the blanks. -/
theorem next?_eq (h : before ++ rest = line.toList) :
    next? line (Text.byteLength before) = some (
      let pos := Text.byteLength before + Text.byteLength (rest.takeWhile Text.isBlank)
      match rest.dropWhile Text.isBlank with
      | [] => (.finish, ⟨pos, pos⟩)
      | c :: tail =>
        ((lexeme c tail).kind, ⟨pos, pos + Text.byteLength (lexeme c tail).text⟩)) := by
  have hle : Text.byteLength before ≤ (Text.bytesOf line).length := by
    rw [Text.bytesOf, Text.length_encode, ← h, Text.byteLength_append]
    exact Nat.le_add_right _ _
  have hsplit : before ++ rest.takeWhile Text.isBlank ++ rest.dropWhile Text.isBlank =
      line.toList := by
    rw [List.append_assoc, List.takeWhile_append_dropWhile, h]
  have hdrop := drop_bytesOf hsplit
  unfold next?
  dsimp only
  rw [Nat.min_eq_left hle, skipWhile_of_drop reads_isBlank (drop_bytesOf h),
    ← Text.byteLength_append]
  cases hrest : rest.dropWhile Text.isBlank with
  | nil =>
    rw [hrest] at hdrop
    rw [List.getElem?_eq_none (List.drop_eq_nil_iff.1 hdrop)]
  | cons c tail =>
    rw [hrest] at hdrop hsplit
    obtain ⟨b, more, hc, -⟩ := Text.encode_char_cases c
    rw [Text.encode_cons, hc, List.cons_append] at hdrop
    obtain ⟨hi, hb, -⟩ := getElem_of_drop hdrop
    rw [List.getElem?_eq_getElem hi, hb]
    exact begun?_eq hsplit hc

theorem tokensFrom?_of_next {i : Nat} {t : TokenKind × Span} (h : next? line i = some t) :
    tokensFrom? line i =
      if t.1 = .finish then some [t] else (tokensFrom? line t.2.stop).map fun ts => t :: ts := by
  rw [tokensFrom?]
  split
  · next hnone => rw [h] at hnone; cases hnone
  · next t' ht' =>
    obtain rfl := Option.some.inj (h.symm.trans ht')
    rfl

/-- The kind and the range of a token. -/
def describe (t : Token) : TokenKind × Span :=
  (t.kind, t.span)

/-- **The tokens of the bytes** of a line are those of its characters. -/
theorem tokensFrom?_eq (h : before ++ rest = line.toList) :
    tokensFrom? line (Text.byteLength before) =
      some ((scan (Text.byteLength before) rest ++ [finishAt (Text.byteLength line.toList)]).map
        describe) := by
  generalize hstart : Text.byteLength before = start
  fun_induction scan start rest generalizing before with
  | case1 start rest hdrop =>
    have hall : rest.takeWhile Text.isBlank = rest :=
      List.takeWhile_eq_self_iff.2 (List.dropWhile_eq_nil_iff.1 hdrop)
    have hend : start + Text.byteLength rest = Text.byteLength line.toList := by
      rw [← h, Text.byteLength_append, hstart]
    have hnext := next?_eq h
    rw [hstart, hdrop, hall, hend] at hnext
    rw [tokensFrom?_of_next hnext, if_pos rfl]
    rfl
  | case2 start rest c tail hdrop =>
    rename_i begin l ih
    have hsplit : before ++ rest.takeWhile Text.isBlank ++ l.text ++ l.rest = line.toList := by
      rw [List.append_assoc, Lexeme.text_append_rest, ← hdrop, List.append_assoc,
        List.takeWhile_append_dropWhile, h]
    have hbehind : Text.byteLength (before ++ rest.takeWhile Text.isBlank ++ l.text) =
        begin + Text.byteLength l.text := by
      rw [Text.byteLength_append, Text.byteLength_append, hstart]
    have hnext := next?_eq h
    rw [hstart, hdrop] at hnext
    have hshape := shape_lexeme (Text.isBlank_of_dropWhile hdrop) (border_nil (c :: tail))
    rw [tokensFrom?_of_next hnext, if_neg hshape.ne_finish]
    dsimp only
    rw [ih hsplit hbehind, Option.map_some, List.cons_append, List.map_cons, describe, span, stop,
      String.toList_ofList]

end Bytes

/-- **The tokens of a line** are its only division, closed by the end of the line: in front of the
end every byte that is no blank belongs to just one token, tokens have the kinds that their texts
say, they begin and end between characters, and none is empty. Scanning the bytes of the line comes
to its end and finds the same. -/
theorem tokenize_divides (line : String) :
    ∃ ts, tokenize line = ts ++ [⟨.finish, line.utf8ByteSize, ""⟩] ∧
      Divides [] line.toList ts ∧ (∀ ts', Divides [] line.toList ts' → ts' = ts) ∧
      (∀ t ∈ ts, t.kind ≠ .finish ∧ t.start < t.stop ∧ t.span.In line) ∧
      Bytes.tokensFrom? line 0 = some ((tokenize line).map fun t => (t.kind, t.span)) := by
  have hdivides : Divides [] line.toList (scan 0 line.toList) :=
    divides_scan (border_nil line.toList)
  have hlength := Text.byteLength_toList line
  refine ⟨scan 0 line.toList, ?_, hdivides, fun ts' h' => h'.eq_scan, fun t ht => ?_,
    Bytes.tokensFrom?_eq (List.nil_append _)⟩
  · rw [tokenize, hlength]
    rfl
  · refine ⟨?_, hdivides.start_lt_stop ht, (in_of_mem_scan (List.nil_append _) rfl t ht).span⟩
    obtain ⟨left, right, -, -, hkind⟩ := hdivides.shaped t ht
    intro hfinish
    exact ((hkind .finish).1 hfinish).ne_finish rfl

end DriverBench.Token
