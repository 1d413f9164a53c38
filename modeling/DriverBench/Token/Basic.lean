import DriverBench.Text.Utf8
/-!
# Tokens of a command line

A token is a stretch of the line with a kind. It carries its text and the place of its first byte;
the place behind its last byte follows from the two.
-/

namespace DriverBench

/-- A half-open range of bytes of a line. -/
structure Span where
  start : Nat
  stop : Nat
  deriving DecidableEq, Repr, Inhabited

namespace Span

/-- The number of bytes of a range. -/
def length (s : Span) : Nat :=
  s.stop - s.start

/-- Whether a range holds no byte. -/
def isEmpty (s : Span) : Bool :=
  s.start == s.stop

/-- The smallest range that holds both. -/
def cover (a b : Span) : Span :=
  ⟨min a.start b.start, max a.stop b.stop⟩

end Span

/-- The kinds of tokens. -/
inductive TokenKind where
  /-- A quote that is not closed, or a character that begins no token. -/
  | invalid
  /-- A word that looks like a number. -/
  | constant
  | word
  /-- Text in quotes. -/
  | quoted
  | comma
  | equal
  | openParen
  | closeParen
  /-- The end of the line. -/
  | finish
  deriving DecidableEq, Repr

/-- A token: its kind, the place of its first byte and its text. -/
structure Token where
  kind : TokenKind
  start : Nat
  text : String
  deriving DecidableEq, Repr

namespace Token

/-- The place behind the last byte of a token. -/
def stop (t : Token) : Nat :=
  t.start + Text.byteLength t.text.toList

/-- The range of a token in its line. -/
def span (t : Token) : Span :=
  ⟨t.start, t.stop⟩

/-- The token without text at the end of a line of `length` bytes. -/
def finishAt (length : Nat) : Token :=
  ⟨.finish, length, ""⟩

/-- The same stretch of the line, taken as no valid token. -/
def asInvalid (t : Token) : Token :=
  { t with kind := .invalid }

end Token

end DriverBench
