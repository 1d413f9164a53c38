import DriverBench.Command.Name
import DriverBench.Expression.Evaluate
/-!
# Arguments of commands

What several commands read in the same way: one of some names, a path, a work size, the objects
for a kernel; and what they say about input that is left over.
-/

namespace DriverBench

open Device Number

namespace Reading

/-- Reads the name, or an abbreviation of the name, of one of several things. -/
def choice {α : Type} (what : String) (name : α → String) (all : List α) : Reading α := do
  let t ← consume
  match Text.choose t.text name all with
  | .one a => return a
  | .several => raise (.ambiguousChoice what t.text) t.span
  | .none => raise (.unknownChoice what t.text (all.map name)) t.span

/-- Warns of the rest of a line, if there is any. -/
def warnTrailing (command : Command) : Reading Unit := do
  let c ← cursor
  if c.current.kind ≠ .finish then
    let name := command.name
    let rest := c.remaining
    Action.warn s!"'{name}' の後の '{rest}' は無視します"

/-- Notes how many objects of the device were let go, if any were. -/
def noteCleared (count : Nat) : Reading Unit := do
  if count ≠ 0 then Action.note s!"ドライバオブジェクト {count} 個を解放しました"

/-- Fails if the current token is invalid. -/
def refuseInvalid : Reading Unit := do
  let t ← current
  if t.kind = .invalid then throw t.invalidFailure

/-- Moves behind all valid tokens. -/
def skipValid : Reading Unit :=
  modifyThe Cursor fun c => { c with pending := c.pending.dropWhile (·.kind ≠ .invalid) }

/-- Reads a path: a quoted text, or else the rest of the line as it stands. -/
def pathArgument : Reading (String × Span) := do
  let t ← current
  match t.kind with
  | .quoted => do
    advance
    let path ← lift t.unquoted
    return (path, t.span)
  | .finish => raise .fileNameRequired t.span
  | .invalid => throw t.invalidFailure
  | _ => do
    let c ← cursor
    skipValid
    return (c.remaining, c.remainingSpan)

/-- Work sizes have at most this many dimensions. -/
def dimensionLimit : Nat := 3

/-- Reads one dimension behind those that were read, and the comma if there is one. -/
def workDimension (sizes : List Nat) : Reading (Step (List Nat)) := do
  let (size, _) ← sizeArgument "作業サイズ"
  let sizes := sizes ++ [size]
  if ← skip .comma then return .next sizes
  return .done sizes

/-- Reads a work size: sizes in parentheses. -/
def workSize : Reading (List Nat) := do
  let opening ← require .openParen .workSizeRequired
  let sizes ← loop workDimension []
  let closing ← require .closeParen .closeParenRequired
  if dimensionLimit < sizes.length then raise .tooManyDimensions (opening.span.cover closing.span)
  return sizes

/-- Evaluates an expression and keeps the object until the line is done. -/
def evaluateKept : Reading Entity := do
  let e ← evaluate
  Action.keep e
  return e

/-- Evaluates an expression that is to denote a kernel, and gives its first token too. -/
def kernelOperand : Reading (Token × Handle) := do
  let t ← current
  let e ← evaluateKept
  match e.object.kernel? with
  | some (kernel, _) => return (t, kernel)
  | none => raise .kernelRequired t.span

/-- Evaluates an expression for a kernel, and gives its first token too. A constant would need a
type. -/
def kernelValue : Reading (Token × Entity) := do
  let t ← current
  if t.kind = .constant then raise (.untypedConstant t.text) t.span
  return (t, ← evaluateKept)

end Reading

end DriverBench
