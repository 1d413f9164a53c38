import DriverBench.Command.Execute
import DriverBench.Text.Lines
/-!
# Scripts

A script is a text whose lines are run in order until one is not good. Blank lines and lines that
start with `#` are passed over. A line behind `@` is not echoed.

Scripts may run scripts, themselves included, down to a fixed depth; so running one always ends.
-/

namespace DriverBench

/-- Scripts run inside one another down to this depth. -/
def scriptDepthLimit : Nat := 32

/-- A line of a script that is to be run. -/
structure ScriptLine where
  text : String
  /-- The line is never echoed. -/
  silent : Bool
  deriving DecidableEq, Repr

namespace ScriptLine

/-- What a raw line of a script asks to be run. -/
def ofRaw? (raw : List Char) : Option ScriptLine :=
  match Text.trimWhere Text.isBlank raw with
  | [] => none
  | '#' :: _ => none
  | '@' :: rest => some ⟨String.ofList (Text.trimWhere Text.isBlank rest), true⟩
  | cs => some ⟨String.ofList cs, false⟩

/-- The lines of a script that are to be run. -/
def ofSource (source : String) : List ScriptLine :=
  (Text.lines source.toList).filterMap ofRaw?

end ScriptLine

/-- Echoes a line of a script, if it is to be seen. -/
def echo (line : ScriptLine) : Action Unit := do
  if !line.silent && (← get).options.echo then Action.say line.text

/-- Runs lines until one is not good. -/
def runLines (runner : ScriptRunner) : List ScriptLine → Action Outcome
  | [] => return .good
  | line :: rest => do
    echo line
    match ← modifyGet (Session.runLineWith runner line.text) with
    | .good => runLines runner rest
    | outcome => return outcome

/-- Acts one level deeper inside scripts, and comes back whatever happens. -/
def deeper {α : Type} (a : Action α) : Action α :=
  ExceptT.mk fun s =>
    match a.run.run { s with depth := s.depth + 1 } with
    | (answer, s) => (answer, { s with depth := s.depth - 1 })

/-- Runs the source of a script with a number of levels left. -/
def runScriptWithin : Nat → ScriptRunner
  | 0, _ => Action.raise .scriptTooDeep
  | levels + 1, source =>
    deeper (runLines (runScriptWithin levels) (ScriptLine.ofSource source))

/-- Runs the source of a script. Failures of its lines are reported as they occur. -/
def runScript : ScriptRunner := fun source => do
  runScriptWithin (scriptDepthLimit - (← get).depth) source

namespace Session

/-- Executes a line. -/
def execute (s : Session) (line : String) : Except Failure Outcome × Session :=
  executeWith runScript line s

/-- Runs a line: executes it, and reports its failure. -/
def runLine (s : Session) (line : String) : Outcome × Session :=
  runLineWith runScript line s

/-- Runs a script from a file, and reports a failure of the script as a whole. -/
def runScriptFile (s : Session) (path : String) : Outcome × Session :=
  match s.files.readText path with
  | .error e => (.fail, s.report "" ⟨.file e, none⟩)
  | .ok source =>
    match (runScript source).run.run s with
    | (.ok outcome, s) => (outcome, s)
    | (.error f, s) => (.fail, s.report "" f)

end Session

end DriverBench
