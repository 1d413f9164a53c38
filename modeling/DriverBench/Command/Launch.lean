import DriverBench.Command.Argument
/-!
# Launching kernels

`run` sets the arguments of a kernel from the first one on and launches it; `bind` sets arguments
without a launch. What a launch uses is kept until the driver is done with it.
-/

namespace DriverBench

open Device Simulator

/-- What stands behind the global size of a launch: perhaps a local size, then values. -/
structure LaunchRest where
  localSize : Option (List Nat) := none
  values : List (Token × Entity) := []

/-- A launch that is ready: its kernel, with the token that the kernel was named by, and what stands
behind it. -/
structure LaunchPlan where
  token : Token
  kernel : Handle
  globalSize : List Nat
  rest : LaunchRest

/-- The driver call that a launch comes to. -/
def LaunchPlan.call (plan : LaunchPlan) : Call Unit :=
  enqueueKernel plan.kernel plan.globalSize plan.rest.localSize

/-- The value that an object is to a kernel: memory of the device, or bytes of the host. -/
def argumentValue? : Object → Option ArgumentValue
  | .memory m => some (.memory m)
  | o => o.data?.map fun d => .bytes d.bytes

namespace Statement

open Reading

/-- Whether a local size comes next: it stands before all values, in parentheses. -/
def localSizeAhead (found : LaunchRest) : Reading Bool := do
  let c ← cursor
  return found.localSize.isNone && found.values.isEmpty && c.current.kind == .openParen &&
    c.next.kind == .constant

/-- Reads a local size, which has as many dimensions as the global one. -/
def localSize (globalSize : List Nat) : Reading (List Nat) := do
  let t ← current
  let sizes ← workSize
  if sizes.length ≠ globalSize.length then raise .localSizeMismatch t.span
  return sizes

/-- Reads one item behind the global size, or the closing parenthesis. -/
def launchItem (globalSize : List Nat) (found : LaunchRest) : Reading (Step LaunchRest) := do
  if ← skip .closeParen then return .done found
  let _ ← require .comma .commaOrCloseRequired
  if ← localSizeAhead found then
    return .next { found with localSize := some (← localSize globalSize) }
  return .next { found with values := found.values ++ [← kernelValue] }

/-- Sets arguments of a kernel, from a number on, one after the other. -/
def setArguments (kernel : Handle) : Nat → List (Token × Entity) → Action Unit
  | _, [] => pure ()
  | index, (t, e) :: rest => do
    match argumentValue? e.object with
    | none => throw (Fault.argumentRequired.atSpan t.span)
    | some value =>
      Action.atSpan (Action.drive (setArgument kernel index value)) t.span
      setArguments kernel (index + 1) rest

/-- Waits for a launch, or keeps what it uses until somebody waits. -/
def awaitLaunch (values : List (Token × Entity)) : Reading Unit := do
  if (← Action.activeDriver).blocking then Action.drive finish
  else change fun s => { s with inFlight := s.inFlight ++ values.map Prod.snd }

/-- Reads what is to be launched and sets the arguments that are given for it. -/
def prepareLaunch : Reading LaunchPlan := do
  let (token, kernel) ← kernelOperand
  let _ ← require .openParen .launchParenRequired
  let globalSize ← workSize
  let rest ← loop (launchItem globalSize) {}
  warnTrailing .run
  let _ ← Action.activeDriver
  setArguments kernel 0 rest.values
  return { token, kernel, globalSize, rest }

/-- The command `run KERNEL((G...)[, (L...)][, ARG...])`. -/
def run : Reading Outcome := do
  let plan ← prepareLaunch
  Action.atSpan (Action.drive plan.call) plan.token.span
  awaitLaunch plan.rest.values
  return .good

/-- Reads one of the objects to be bound, behind those that were read. -/
def boundValue (values : List (Token × Entity)) : Reading (Step (List (Token × Entity))) := do
  let _ ← skip .comma
  if !(← hasMore) then return .done values
  return .next (values ++ [← kernelValue])

/-- The command `bind KERNEL INDEX OBJ...`. -/
def bindArguments : Reading Outcome := do
  let (_, kernel) ← kernelOperand
  let _ ← skip .comma
  let (first, _) ← numberArgument .uint "引数番号"
  let values ← loop boundValue []
  refuseInvalid
  if values.isEmpty then raise .bindObjectsRequired (← here)
  let _ ← Action.activeDriver
  setArguments kernel first values
  return .good

end Statement

end DriverBench
