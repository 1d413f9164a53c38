import DriverBench.Session.Reading
import DriverBench.Simulator.Kernel
import DriverBench.Simulator.Program
/-!
# Programs and kernels

A program is made from source or from a binary and is built at once. The log of a failed build is
printed, and the program is given up. A kernel is one of the functions that a program declares.
-/

namespace DriverBench

open Device Simulator

namespace Reading

/-- Reads the options of a build, if there are any. -/
def buildOptions : Reading String := do
  if !(← skip .comma) then return ""
  lift (← consume).unquoted

/-- Prints the log of a failed build, with an end of line. -/
def printLog (log : String) : Action Unit :=
  Action.printError (if log.endsWith "\n" then log else log ++ "\n")

/-- Builds a program. The log of a build that fails is printed. -/
def build (program : Handle) (options : String) : Action Unit :=
  tryCatch (Action.drive (buildProgram program options)) fun f => do
    match f.fault with
    | .driver (.buildFailure log) => printLog log
    | _ => pure ()
    throw f

/-- Builds a new program, and gives it up if that fails. -/
def builtProgram (program : Handle) (options : String) : Reading Object :=
  undoing program do
    build program options
    return .program program

/-- Reads the rest of the arguments of `program` and makes the program of a source. -/
def programOfSource (source : String) : Reading Object := do
  let options ← buildOptions
  closeArguments
  let program ← Action.drive (createProgram source)
  builtProgram program options

/-- Reads the source of a program as quoted text, and makes the program. -/
def quotedProgram : Reading Object := do
  let source ← lift (← consume).unquoted
  programOfSource source

/-- Makes a program whose source is the data of an object. Bytes that are no text are replaced. -/
def dataProgram (operand : Token) (source : Entity) : Reading Object := do
  match source.object.data? with
  | none => raise .sourceRequired operand.span
  | some d => programOfSource (String.ofList (Text.decodeLenient d.bytes))

/-- Makes a program from a binary. -/
def binaryProgram (operand : Token) (source : Entity) : Reading Object := do
  match source.object.data? with
  | none => raise .binaryDataRequired operand.span
  | some d => do
    let options ← buildOptions
    closeArguments
    let program ← Action.atSpan (Action.drive (createProgramBinary d.bytes)) operand.span
    builtProgram program options

/-- Reads the name of a kernel. -/
def kernelName : Reading (String × Token) := do
  let t ← consume
  match t.kind with
  | .word | .quoted =>
    let name ← lift t.wordOrText
    return (name, t)
  | _ => raise .kernelNameRequired t.span

/-- Reads the name of a kernel of a program and makes the kernel. -/
def programKernel (operand : Token) (source : Entity) : Reading Object := do
  match source.object.program? with
  | none => raise .programRequired operand.span
  | some program => do
    comma
    let (name, t) ← kernelName
    closeArguments
    let (kernel, name) ← Action.atSpan (Action.drive (createKernel program name)) t.span
    return .kernel kernel name

end Reading

end DriverBench
