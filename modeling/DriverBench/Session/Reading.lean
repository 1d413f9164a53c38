import DriverBench.Session.Basic
/-!
# Reading a line in a session

Reading moves a cursor along the line and acts on the session as it goes. A failure leaves both as
they are at that moment.
-/

namespace DriverBench

open Device Number Simulator

/-- Reads part of a line. -/
abbrev Reading (α : Type) := ExceptT Failure (StateT Cursor (StateM Session)) α

/-- Acting on the session leaves the cursor where it is. -/
instance : MonadLift Action Reading where
  monadLift a := ExceptT.mk fun c s =>
    match a.run.run s with
    | (answer, s) => ((answer, c), s)

namespace Reading

variable {α σ : Type}

/-- The cursor. -/
def cursor : Reading Cursor := getThe Cursor

/-- The session. -/
def session : Reading Session := getThe Session

/-- Changes the session. -/
def change (f : Session → Session) : Reading Unit := modifyThe Session f

/-- The token to be read next. -/
def current : Reading Token := return (← cursor).current

/-- The place of the token to be read next. -/
def here : Reading Span := return (← current).span

/-- Whether there is a token to be read that is a valid one. -/
def hasMore : Reading Bool := return (← cursor).hasMore

/-- Fails at a place. -/
def raise (fault : Fault) (span : Span) : Reading α :=
  throw (fault.atSpan span)

/-- The value, or the failure, of something that is no matter of the session. -/
def lift (value : Except Failure α) : Reading α :=
  match value with
  | .ok a => pure a
  | .error f => throw f

/-- Moves behind the current token. -/
def advance : Reading Unit := modifyThe Cursor Cursor.advance

/-- Reads the current token, of whatever kind. -/
def consume : Reading Token := do
  let t ← current
  advance
  return t

/-- Reads a token of a kind, if it is the current one. -/
def accept (kind : TokenKind) : Reading (Option Token) := do
  match (← cursor).accept kind with
  | some (t, c) => do
    set c
    return some t
  | none => return none

/-- Reads a token of a kind, and tells whether it was there. -/
def skip (kind : TokenKind) : Reading Bool :=
  return (← accept kind).isSome

/-- Reads a token of a kind, or gives the current one as invalid. -/
def expect (kind : TokenKind) : Reading Token := do
  let (t, c) := (← cursor).expect kind
  set c
  return t

/-- Reads a token of a kind, or fails. -/
def require (kind : TokenKind) (fault : Fault) : Reading Token := do
  let (t, c) := (← cursor).require kind fault
  set c
  lift t

/-- What a step of a loop comes to. -/
inductive Step (σ : Type) where
  /-- Go on with a new value. -/
  | next (value : σ)
  /-- The loop is done. -/
  | done (value : σ)

/-- Repeats a step from a cursor and a session on. -/
def loopFrom (step : σ → Reading (Step σ)) (value : σ) (c : Cursor) (s : Session) :
    (Except Failure σ × Cursor) × Session :=
  match (step value).run c s with
  | ((.error f, c'), s') => ((.error f, c'), s')
  | ((.ok (.done a), c'), s') => ((.ok a, c'), s')
  | ((.ok (.next a), c'), s') =>
    if c'.pending.length < c.pending.length then loopFrom step a c' s' else ((.ok a, c'), s')
termination_by c.pending.length

/-- Repeats a step until it says that it is done. A step that goes on moves the cursor; the loop
ends where one does not. -/
def loop (step : σ → Reading (Step σ)) (value : σ) : Reading σ :=
  ExceptT.mk fun c s => loopFrom step value c s

/-- Reads part of a line, and lets an object go afterwards, whether or not that fails. -/
def holding (e : Entity) (body : Reading α) : Reading α :=
  ExceptT.mk fun c s =>
    match body.run c s with
    | ((answer, c), s) => ((answer, c), s.letGo [e])

/-- Reads part of a line, and lets something of the device go if that fails. -/
def undoing (h : Handle) (body : Reading α) : Reading α :=
  ExceptT.mk fun c s =>
    match body.run c s with
    | ((.ok a, c), s) => ((.ok a, c), s)
    | ((.error f, c), s) => ((.error f, c), s.letGoHandle h)

/-- Fails at a place unless a driver is loaded, which a constructor needs. -/
def requireDriver (keyword : String) (span : Span) : Reading Unit := do
  if (← session).driver?.isNone then raise (.driverRequired keyword) span

/-- Reads the parenthesis behind a constructor's name. -/
def openArguments (keyword : String) : Reading Unit := do
  if !(← skip .openParen) then raise (.openParenRequired keyword) (← here)

/-- Reads the parenthesis behind the arguments of a constructor. -/
def closeArguments : Reading Unit := do
  let _ ← require .closeParen .closeParenRequired

/-- Reads the comma between two arguments. -/
def comma : Reading Unit := do
  let _ ← require .comma .commaRequired

/-- Reads a token that looks like a number. -/
def constantToken (what : String) : Reading Token := do
  let t ← current
  if t.kind ≠ .constant then raise (.constantRequired what) t.span
  advance
  return t

/-- Reads a number of a type without negative values, and gives its token too. -/
def numberArgument (type : IntegerType) (what : String) : Reading (Nat × Token) := do
  let t ← constantToken what
  let n ← lift (t.located (type.readNatural t.text))
  return (n, t)

/-- Reads a size or a position, and gives its token too. -/
def sizeArgument (what : String) : Reading (Nat × Token) :=
  numberArgument .size what

end Reading

end DriverBench
