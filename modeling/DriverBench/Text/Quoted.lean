/-!
# Quoted text

A quoted text stands between double quotes. Inside it a backslash introduces an escape: `\n` and
`\t` are a line feed and a tab, `\\` and `\"` the character itself. Every other escape, and a
backslash with nothing behind it, stands for no character at all.
-/

namespace DriverBench.Text

/-- The text without its opening quote and, if there is one, its closing quote. Text that does not
open with a quote is left alone. -/
def dropQuotes : List Char → List Char
  | '"' :: rest => if rest.getLast? = some '"' then rest.dropLast else rest
  | cs => cs

/-- The character that an escape stands for. -/
def escapeMeaning : Char → Option Char
  | 'n' => some '\n'
  | 't' => some '\t'
  | '\\' => some '\\'
  | '"' => some '"'
  | _ => none

/-- Resolves the escapes of a text. -/
def unescape : List Char → List Char
  | [] => []
  | '\\' :: e :: rest => (escapeMeaning e).toList ++ unescape rest
  | ['\\'] => []
  | c :: rest => c :: unescape rest

/-- The content of a quoted text. -/
def unquote (s : String) : String :=
  String.ofList (unescape (dropQuotes s.toList))

/-- Writes a backslash before each backslash and each double quote. -/
def escape : List Char → List Char
  | [] => []
  | c :: rest => if c = '\\' ∨ c = '"' then '\\' :: c :: escape rest else c :: escape rest

/-- A text in quotes, so that `unquote` gives it back. -/
def quote (s : String) : String :=
  String.ofList ('"' :: escape s.toList ++ ['"'])

theorem unescape_escape (cs : List Char) : unescape (escape cs) = cs := by
  induction cs with
  | nil => rfl
  | cons c rest ih =>
    by_cases h : c = '\\' ∨ c = '"'
    · rcases h with rfl | rfl <;> simp [escape, unescape, escapeMeaning, ih]
    · rw [escape, if_neg h]
      rw [not_or] at h
      rw [unescape.eq_def]
      split <;> simp_all

@[simp] theorem unquote_quote (s : String) : unquote (quote s) = s := by
  simp [unquote, quote, dropQuotes, List.getLast?_append, unescape_escape]

end DriverBench.Text
