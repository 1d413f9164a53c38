import DriverBench.Fault
import DriverBench.Text.Quoted
import DriverBench.Token.Scan
/-!
# Reading a line token by token

A cursor stands before the tokens of a line that are still to be read. Behind the last one it
stays at the end of the line. Reading never goes back, and each step takes one token, so the
number of tokens ahead bounds whatever is done with a line.
-/

namespace DriverBench

open Number

namespace Token

/-- The failure that an invalid token amounts to. -/
def invalidFailure (t : Token) : Failure :=
  if t.text.toList.head? == some '"' then Fault.openQuote.atSpan t.span
  else Fault.strayCharacter.atSpan t.span

/-- The content of a quoted text. -/
def unquoted (t : Token) : Except Failure String :=
  if t.kind = .quoted then .ok (Text.unquote t.text)
  else .error (Fault.textRequired.atSpan t.span)

/-- A word as it stands, or the content of a quoted text. -/
def wordOrText (t : Token) : Except Failure String :=
  match t.kind with
  | .quoted => t.unquoted
  | .word | .constant => .ok t.text
  | _ => .error (Fault.nameOrTextRequired.atSpan t.span)

/-- The value of a constant that was read, or the failure at its token. -/
def located {α : Type} (t : Token) (value : Except ConstantError α) : Except Failure α :=
  match value with
  | .ok a => .ok a
  | .error e => .error ((Fault.constant e).atSpan t.span)

end Token

/-- The tokens of a line that are still ahead, without the end of the line. -/
structure Cursor where
  line : String
  pending : List Token
  deriving DecidableEq, Repr

namespace Cursor

/-- A cursor before the first token of a line. -/
def ofLine (line : String) : Cursor :=
  ⟨line, Token.scan 0 line.toList⟩

/-- The end of the line as a token. -/
def finish (c : Cursor) : Token :=
  Token.finishAt (Text.byteLength c.line.toList)

/-- The token to be read next; behind the last one, the end of the line. -/
def current (c : Cursor) : Token :=
  c.pending.headD c.finish

/-- Whether there is a token to be read that is a valid one. -/
def hasMore (c : Cursor) : Bool :=
  c.current.kind != .finish && c.current.kind != .invalid

/-- The token behind the current one. Behind the end and behind an invalid token there is none, and
the current one is given as invalid. -/
def next (c : Cursor) : Token :=
  if c.hasMore then c.pending.tail.headD c.finish else c.current.asInvalid

/-- The cursor behind the current token. -/
def advance (c : Cursor) : Cursor :=
  { c with pending := c.pending.tail }

/-- Reads a token of a kind. -/
def accept (c : Cursor) (kind : TokenKind) : Option (Token × Cursor) :=
  if c.current.kind = kind then some (c.current, c.advance) else none

/-- Reads a token of a kind, or gives the current one as invalid. -/
def expect (c : Cursor) (kind : TokenKind) : Token × Cursor :=
  (c.accept kind).getD (c.current.asInvalid, c)

/-- Reads a token of a kind, or fails at the cursor. -/
def require (c : Cursor) (kind : TokenKind) (fault : Fault) : Except Failure Token × Cursor :=
  let (t, c) := c.expect kind
  if t.kind = .invalid then (.error (fault.atSpan c.current.span), c) else (.ok t, c)

/-- The rest of the line from the current token on, without the blanks at its end. -/
def remaining (c : Cursor) : String :=
  Text.trimBlank (String.ofList (Text.dropBytes c.current.start c.line.toList))

/-- The place of the rest of the line. -/
def remainingSpan (c : Cursor) : Span :=
  ⟨c.current.start, c.current.start + Text.byteLength c.remaining.toList⟩

theorem length_advance_le (c : Cursor) : c.advance.pending.length ≤ c.pending.length := by
  simp [advance]

/-- Reading a token that is not the end of the line moves the cursor. -/
theorem length_advance_lt {c : Cursor} (h : c.current.kind ≠ .finish) :
    c.advance.pending.length < c.pending.length := by
  rcases c with ⟨line, _ | ⟨t, rest⟩⟩
  · simp [current, finish, Token.finishAt] at h
  · simp [advance]

end Cursor

end DriverBench
