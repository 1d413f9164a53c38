import DriverBench.Command.Bindings
import DriverBench.Command.Device
import DriverBench.Command.Help
import DriverBench.Command.Launch
import DriverBench.Command.Save
/-!
# Executing a line

A line is blank, an assignment or a command. The command `script` leads back to lines; how a
script is run is therefore a parameter here.
-/

namespace DriverBench

open Device

/-- A way to run the source of a script. -/
abbrev ScriptRunner := String → Action Outcome

namespace Statement

open Reading

/-- The command `help [TOPIC]`. -/
def help : Reading Outcome := do
  if !(← hasMore) then
    Action.print helpOverview
    return .good
  let topic ← choice "ヘルプの話題" HelpTopic.name HelpTopic.all
  warnTrailing .help
  Action.print topic.text
  return .good

/-- The command `quit`. -/
def quit : Reading Outcome := do
  warnTrailing .quit
  return .quit

/-- The command `script FILE`. A failure of the script as a whole is one of the file's name. -/
def script (runner : ScriptRunner) : Reading Outcome := do
  let (path, span) ← pathArgument
  warnTrailing .script
  match (← session).files.readText path with
  | .error e => raise (.file e) span
  | .ok source => Action.atSpan (runner source) span

/-- Carries a command out. -/
def perform (runner : ScriptRunner) : Command → Reading Outcome
  | .load => load
  | .select => select
  | .info => info
  | .list => list
  | .set => settings
  | .release => release
  | .save => save
  | .run => run
  | .script => script runner
  | .wait => wait
  | .flush => flush
  | .bind => bindArguments
  | .help => help
  | .quit => quit

/-- Reads the name of a command. -/
def commandName : Reading Command := do
  let t ← consume
  match Text.choose t.text Command.name Command.all with
  | .one c => return c
  | .several => raise (.ambiguousCommand t.text (Command.candidates t.text)) t.span
  | .none => raise (.unknownCommand t.text) t.span

/-- Executes what is ahead as a whole line. -/
def execute (runner : ScriptRunner) : Reading Outcome := do
  let c ← cursor
  match c.current.kind with
  | .finish => return .good
  | .invalid => throw c.current.invalidFailure
  | _ =>
    if c.next.kind = .equal then assignment
    else perform runner (← commandName)

end Statement

namespace Session

/-- Evaluates a line as an expression. The object is the caller's, who lets it go. -/
def evaluate (s : Session) (line : String) : (Except Failure Entity × Cursor) × Session :=
  Reading.evaluate.run (Cursor.ofLine line) s

/-- Executes a line. Whatever it held is let go at its end. -/
def executeWith (runner : ScriptRunner) (line : String) (s : Session) :
    Except Failure Outcome × Session :=
  let ((answer, _), s) := (Statement.execute runner).run (Cursor.ofLine line) s
  (answer, s.dropTemporaries)

/-- Runs a line: executes it, and reports its failure. -/
def runLineWith (runner : ScriptRunner) (line : String) (s : Session) : Outcome × Session :=
  let s := s.note (.ran s.depth line)
  match executeWith runner line s with
  | (.ok outcome, s) => (outcome, s)
  | (.error f, s) => (.fail, s.report line f)

end Session

end DriverBench
