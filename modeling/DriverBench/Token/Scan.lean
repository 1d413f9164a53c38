import DriverBench.Token.Basic
import DriverBench.Text.Blank
/-!
# Dividing a line into tokens

Blanks divide tokens and belong to none. A token is one of the signs `=`, `,`, `(` and `)`; a
text in double quotes, in which a backslash keeps the next character from closing it; a word, that
is a longest run of word characters; or, failing all that, an invalid stretch: one character, or
everything from a quote that is never closed.

Each step takes a non-empty stretch off the line (`Lexeme.text_append_rest`,
`Lexeme.text_ne_nil`), so the division comes to an end and loses nothing but blanks.
-/

namespace DriverBench.Token

/-- The characters of words: ASCII letters and digits, and those that occur in names of files and
in numbers. -/
def isWordPart (c : Char) : Bool :=
  c.isAlphanum || c == '_' || c == '-' || c == '+' || c == '~' || c == '.' || c == '/' || c == '\''

/-- Whether a text starts with a digit, or with a sign and a digit. -/
def looksLikeNumber : List Char → Bool
  | '+' :: c :: _ => c.isDigit
  | '-' :: c :: _ => c.isDigit
  | c :: _ => c.isDigit
  | [] => false

/-- The sign that a character is. -/
def signKind? : Char → Option TokenKind
  | '=' => some .equal
  | ',' => some .comma
  | '(' => some .openParen
  | ')' => some .closeParen
  | _ => none

/-- What closes a quoted text: the characters up to the closing quote and with it, and what
follows. There is none when the quote is never closed. -/
def closeQuote : List Char → Option (List Char × List Char)
  | [] => none
  | '"' :: rest => some (['"'], rest)
  | '\\' :: c :: rest => (closeQuote rest).map fun (body, after) => ('\\' :: c :: body, after)
  | ['\\'] => none
  | c :: rest => (closeQuote rest).map fun (body, after) => (c :: body, after)

theorem closeQuote_append {cs body after : List Char} (h : closeQuote cs = some (body, after)) :
    body ++ after = cs := by
  fun_induction closeQuote cs generalizing body after with
  | case1 => simp at h
  | case2 rest =>
    simp only [Option.some.injEq, Prod.mk.injEq] at h
    rw [← h.1, ← h.2]
    rfl
  | case3 c rest ih =>
    obtain ⟨⟨b, a⟩, hb, he⟩ := Option.map_eq_some_iff.1 h
    simp only [Prod.mk.injEq] at he
    rw [← he.1, ← he.2, List.cons_append, List.cons_append, ih hb]
  | case4 => simp at h
  | case5 c rest _ _ _ ih =>
    obtain ⟨⟨b, a⟩, hb, he⟩ := Option.map_eq_some_iff.1 h
    simp only [Prod.mk.injEq] at he
    rw [← he.1, ← he.2, List.cons_append, ih hb]

/-- The stretch that a token takes off the front of a text. -/
structure Lexeme where
  kind : TokenKind
  text : List Char
  rest : List Char

/-- The kind of a word. -/
def wordKind (word : List Char) : TokenKind :=
  if looksLikeNumber word then .constant else .word

/-- The token that starts with the character `c`, which is no blank. -/
def lexeme (c : Char) (rest : List Char) : Lexeme :=
  match signKind? c with
  | some kind => ⟨kind, [c], rest⟩
  | none =>
    if c = '"' then
      match closeQuote rest with
      | some (body, after) => ⟨.quoted, c :: body, after⟩
      | none => ⟨.invalid, c :: rest, []⟩
    else if isWordPart c then
      let word := c :: rest.takeWhile isWordPart
      ⟨wordKind word, word, rest.dropWhile isWordPart⟩
    else ⟨.invalid, [c], rest⟩

namespace Lexeme

/-- A token and what follows it make up the text. -/
theorem text_append_rest (c : Char) (rest : List Char) :
    (lexeme c rest).text ++ (lexeme c rest).rest = c :: rest := by
  unfold lexeme
  split
  · rfl
  · split
    · split
      · rename_i body after h
        rw [List.cons_append, closeQuote_append h]
      · simp
    · split
      · simp [List.takeWhile_append_dropWhile]
      · rfl

/-- A token has at least one character. -/
theorem text_ne_nil (c : Char) (rest : List Char) : (lexeme c rest).text ≠ [] := by
  unfold lexeme
  split
  · simp
  · split
    · split <;> simp
    · split <;> simp

/-- What follows a token is shorter than the text that it starts. -/
theorem length_rest_le (c : Char) (rest : List Char) :
    (lexeme c rest).rest.length ≤ rest.length := by
  have h := congrArg List.length (text_append_rest c rest)
  have := List.length_pos_iff.2 (text_ne_nil c rest)
  simp only [List.length_append, List.length_cons] at h
  omega

end Lexeme

/-- The tokens of a text whose first byte is at `start`, the end of the line left out. -/
def scan (start : Nat) (cs : List Char) : List Token :=
  match _h : cs.dropWhile Text.isBlank with
  | [] => []
  | c :: rest =>
    let begin := start + Text.byteLength (cs.takeWhile Text.isBlank)
    let l := lexeme c rest
    ⟨l.kind, begin, String.ofList l.text⟩ :: scan (begin + Text.byteLength l.text) l.rest
termination_by cs.length
decreasing_by
  have h₁ := Lexeme.length_rest_le c rest
  have h₂ := congrArg List.length _h
  have h₃ := (List.dropWhile_sublist Text.isBlank (l := cs)).length_le
  simp only [List.length_cons] at h₂
  omega

/-- The tokens of a line, closed by the end of the line. -/
def tokenize (line : String) : List Token :=
  scan 0 line.toList ++ [finishAt (Text.byteLength line.toList)]

/-- The first token at or behind a byte of a line. -/
def nextFrom (line : String) (index : Nat) : Token :=
  let length := Text.byteLength line.toList
  let start := min index length
  (scan start (Text.dropBytes start line.toList)).headD (finishAt length)

end DriverBench.Token
