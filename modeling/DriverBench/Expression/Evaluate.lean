import DriverBench.Expression.Array
import DriverBench.Expression.Constructor
import DriverBench.Expression.Memory
import DriverBench.Expression.Program
/-!
# Evaluating expressions

An expression is a name, an expression in parentheses, or a constructor with its arguments. A bound
name means its object, even if it is the word of a constructor.

Only the first argument of a constructor can be an expression, and it stands right behind the
opening parenthesis. So evaluation goes down along the tokens that are ahead, and ends.
-/

namespace DriverBench

open Device

namespace Reading

/-- What a derivation makes without an object, if its arguments start with a token of a kind: a
buffer of a size, and a program of quoted text. -/
def plain? : Derivation → TokenKind → Option (Reading Object)
  | .buffer, .constant => some sizedBuffer
  | .program, .quoted => some quotedProgram
  | _, _ => none

/-- What a derivation makes from an object. -/
def derive : Derivation → Token → Entity → Reading Object
  | .clone => clonedObject
  | .buffer => filledBuffer
  | .image => filledImage
  | .program => dataProgram
  | .binary => binaryProgram
  | .kernel => programKernel

/-- Reads the arguments of a derivation, the first of which is read as `operand`. -/
def derivedObject (d : Derivation) (operand : Reading Entity) : Reading Object := do
  let first ← current
  match plain? d first.kind with
  | some object => object
  | none => do
    let source ← operand
    holding source (derive d first source)

/-- Makes what a constructor denotes, whose word was the last token. An expression that stands
first among the arguments is read as `operand`. -/
def construct (c : Constructor) (word : Token) (operand : Reading Entity) : Reading Object := do
  match c with
  | .file => do
    openArguments c.keyword
    fileObject
  | .array type => do
    openArguments c.keyword
    arrayObject type
  | .derived d => do
    if d.needsDriver then requireDriver d.keyword word.span
    openArguments c.keyword
    derivedObject d operand

/-- Closes an expression in parentheses, the opening one of which was given. -/
def closed (opening : Token) (e : Entity) : Reading Entity := do
  if ← skip .closeParen then return e
  change (·.letGo [e])
  raise .unmatchedParen opening.span

/-- Fails where an expression is missing. -/
def missing : Reading Entity := do
  raise .expressionMissing (← here)

/-- Evaluates the expression that starts with the tokens ahead. -/
def evaluateFrom : List Token → Reading Entity
  | [] => missing
  | t :: rest => do
    match t.kind with
    | .invalid => throw t.invalidFailure
    | .openParen => do
      advance
      let e ← evaluateFrom rest
      closed t e
    | .word => do
      advance
      match (← session).env.lookup t.text with
      | some e => return e
      | none =>
        match Constructor.ofKeyword? t.text, rest with
        | none, _ => raise (.undefinedName t.text) t.span
        | some c, [] => do Action.enter (← construct c t missing)
        | some c, _ :: arguments => do Action.enter (← construct c t (evaluateFrom arguments))
    | _ => raise .nameOrConstructorRequired t.span

/-- Evaluates an expression. -/
def evaluate : Reading Entity := do
  evaluateFrom (← cursor).pending

end Reading

end DriverBench
