import DriverBench.CommandLine
import DriverBench.Raster.Netpbm
import DriverBench.Raster.Png
/-!
# The program

Reads the files below the working directory, runs a session on them, and prints and writes what
comes of each step.
-/

namespace DriverBench.Program

open Files Raster

/-- The environment variable that names the history file. -/
def historyVariable : String := "CLTB_HISTORY_FILE"

/-- The name of the history file in the home directory. -/
def historyFile : String := ".cltb_history"

/-- The bytes of a block. -/
def blockOf (bytes : List UInt8) : ByteArray :=
  ⟨bytes.toArray⟩

/-- Adds the files below a directory to a tree. What cannot be read is left out. -/
partial def addBelow (entries : Array IO.FS.DirEntry) (place : Place) (t : FileTree) :
    IO FileTree := do
  let mut t := t
  for entry in entries do
    let here := place ++ [entry.fileName]
    try
      if ← entry.path.isDir then
        t ← addBelow (← entry.path.readDir) here (t.makeDirectories here)
      else
        t := t.put here (.file (← IO.FS.readBinFile entry.path).toList)
    catch _ => pure ()
  return t

/-- The files below the working directory. -/
def snapshot : IO FileTree := do
  let here ← IO.currentDir
  let place := parts here.toString
  addBelow (← here.readDir) place (FileTree.withWorkingDirectory place)

/-- Prints and writes what a step of a session brought about, and clears the streams for the
next one. -/
def settle (before : FileTree) (s : Session) : IO Session := do
  IO.print s.out.text
  (← IO.getStdout).flush
  IO.eprint s.err.text
  let old := before.listing
  for (path, bytes) in s.files.listing do
    if old.lookup path != some bytes then IO.FS.writeBinFile path (blockOf bytes)
  return { s with out := { s.out with text := "" }, err := { s.err with text := "" } }

/-- What asking for a line comes to. -/
def nextAnswer : IO Answer := do
  try
    let line ← (← IO.getStdin).getLine
    if line.isEmpty then return .finished
    return (answersOf line).headD (.line "")
  catch _ => return .failed

/-- Asks for lines and runs them until one quits or there is nothing more to be read. -/
partial def talk (s : Session) : IO (Outcome × Session) := do
  let s ← settle s.files (s.ask .printed)
  match s.accept (← nextAnswer) with
  | (some outcome, after) => return (outcome, ← settle s.files after)
  | (none, after) => talk (← settle s.files after)

/-- The path of the history file, if there is a place for one. -/
def historyPath? : IO (Option String) := do
  if let some path ← IO.getEnv historyVariable then return some path
  let home ← IO.getEnv "HOME"
  return home.map fun h => h ++ "/" ++ historyFile

/-- Adds the lines that were entered to the history file. A file that cannot be written is let
be. -/
def keepHistory (s : Session) : IO Unit := do
  if let some path ← historyPath? then
    try
      let old ← try History.ofText <$> IO.FS.readFile path catch _ => pure {}
      let history := s.extendHistory old
      let parent := parentPath path
      if !parent.isEmpty then IO.FS.createDirAll parent
      if 0 < history.fresh then IO.FS.writeFile path history.render
    catch _ => pure ()

/-- Runs a session as the arguments ask. -/
def runArguments (a : Arguments) : IO ExitStatus := do
  let files ← snapshot
  let codec := Codec.ofContainers Png.container Netpbm.container
  let (status, s) := a.prepare { codec, files }
  let s ← settle files s
  match status with
  | some status => return status
  | none => do
    let (outcome, s) ← talk s
    keepHistory s
    return .ofOutcome outcome

/-- Runs the program. -/
def run (arguments : List String) : IO ExitStatus := do
  match Arguments.read arguments with
  | .ok a => runArguments a
  | .error (.asked n) => do
    IO.print n.text
    return .success
  | .error .misuse => do
    IO.eprint usageText
    return .misuse

end DriverBench.Program

/-- Runs the program and gives the system its exit status. -/
def main (arguments : List String) : IO UInt32 := do
  return (← DriverBench.Program.run arguments).code.toUInt32
