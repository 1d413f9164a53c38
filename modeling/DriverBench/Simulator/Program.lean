import DriverBench.Simulator.State
import DriverBench.Text.Lines
import DriverBench.Text.Utf8
/-!
# Programs of the simulator

A program is its source. Its binary is the source behind a magic line, so that a binary can be
made into a program again.
-/

namespace DriverBench.Simulator

open Device

/-- The first bytes of every program binary. -/
def binaryMagic : List UInt8 := Text.bytesOf "SIMBIN1\n"

/-- The bytes behind the magic line, if the bytes start with it. -/
def afterMagic? (binary : List UInt8) : Option (List UInt8) :=
  if binaryMagic.isPrefixOf binary then some (binary.drop binaryMagic.length) else none

/-- The lines of a source that ask for the build to fail. -/
def errorLines (source : String) : List (List Char) :=
  (Text.lines source.toList).filter fun line =>
    "#error".toList.isPrefixOf (line.dropWhile Text.isWhiteSpace)

/-- The log of a failed build: the lines that made it fail. -/
def buildLog (errors : List (List Char)) : String :=
  String.ofList (List.intercalate ['\n'] errors)

/-- Creates a program from source that is not blank. -/
def createProgram (source : String) : Call Handle := do
  if source.toList.all Text.isWhiteSpace then fail "clCreateProgramWithSource" .invalidValue
  let handle ← allocate .program
  modify fun s => { s with programs := s.programs.insert handle.id { source } }
  return handle

/-- Creates a program from a binary. Bytes that are no text are replaced. -/
def createProgramBinary (binary : List UInt8) : Call Handle := do
  let body ← orFail (afterMagic? binary) "clCreateProgramWithBinary" .invalidBinary
  createProgram (String.ofList (Text.decodeLenient body))

/-- Builds a program: finds its kernels, unless the source asks for a failure. -/
def buildProgram (program : Handle) (_options : String) : Call Unit := do
  let entry ← orFail ((← get).programs.get? program.id) "clBuildProgram" .invalidProgram
  let errors := errorLines entry.source
  if errors.isEmpty then
    modify fun s =>
      { s with programs := s.programs.modify program.id fun p =>
          { p with built := true, signatures := declarations p.source } }
  else do
    modify fun s =>
      { s with programs := s.programs.modify program.id fun p => { p with built := false } }
    throw (.buildFailure (buildLog errors))

/-- The binary of a program that was built. -/
def programBinary (program : Handle) : Call (List UInt8) := do
  let entry ← orFail ((← get).programs.get? program.id) "clGetProgramInfo" .invalidProgram
  if !entry.built then fail "clGetProgramInfo" .invalidProgramExecutable
  return binaryMagic ++ Text.bytesOf entry.source

end DriverBench.Simulator
