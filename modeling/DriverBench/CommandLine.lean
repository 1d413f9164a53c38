import DriverBench.Arguments
import DriverBench.Console
import DriverBench.History
import DriverBench.Text.Backspace
/-!
# Running from the command line

A run loads a driver, then runs scripts and lines from the command line, and enters the interactive
loop when there are none of them or when it is told to.
-/

namespace DriverBench

open Files Raster

/-- How a run ends. -/
inductive ExitStatus where
  | success | failure
  /-- The arguments were wrong. -/
  | misuse
  deriving DecidableEq, Repr

namespace ExitStatus

/-- The number of an exit status. -/
def code : ExitStatus → Nat
  | .success => 0
  | .failure => 1
  | .misuse => 2

/-- The exit status of the outcome of the last thing that was run. -/
def ofOutcome : Outcome → ExitStatus
  | .good | .quit => .success
  | .fail => .failure

end ExitStatus

/-- The version of the program. -/
def versionText : String := "cltb-rs 0.1.0\n"

/-- How the program is called. -/
def usageText : String :=
  "計算 API ドライバを対話的に試すコマンド・式言語\n" ++
  "\n" ++
  "Usage: cltb [OPTIONS] [LIBRARY]\n" ++
  "\n" ++
  "Arguments:\n" ++
  "  [LIBRARY]  起動時に読み込むドライバライブラリ\n" ++
  "\n" ++
  "Options:\n" ++
  "      --no-auto-load    起動時にドライバを読み込まない\n" ++
  "  -s, --script <FILE>   実行するスクリプト（複数可、指定順）\n" ++
  "  -c, --command <LINE>  実行するコマンド行（複数可、スクリプトの後に指定順）\n" ++
  "  -i, --interactive     一括実行の後も対話ループに入る\n" ++
  "  -q, --quiet           補足メッセージを表示しない\n" ++
  "      --no-caret        エラー位置のキャレットを表示しない\n" ++
  "      --echo            スクリプトの各行を表示する\n" ++
  "      --no-block        ドライバ操作の完了を待たない\n" ++
  "  -h, --help            Print help\n" ++
  "  -V, --version         Print version\n"

namespace Notice

/-- What is printed for a notice. -/
def text : Notice → String
  | .version => versionText
  | .usage => usageText

end Notice

namespace Arguments

/-- The options that the switches ask for. -/
def options (a : Arguments) : Options where
  verbose := !a.has .quiet
  caret := !a.has .noCaret
  echo := a.has .echo
  block := !a.has .noBlock

/-- The line that loads the driver at the start, if one is to be loaded. -/
def loadLine? (a : Arguments) : Option String :=
  match a.library with
  | some library => some ("load " ++ Text.quote library)
  | none => if a.has .noAutoLoad then none else some "load"

/-- Whether there are scripts or lines to run. -/
def hasBatch (a : Arguments) : Bool :=
  !a.scripts.isEmpty || !a.commands.isEmpty

end Arguments

namespace Session

/-- Runs steps until one is not good. -/
def runUntil {α : Type} (step : Session → α → Outcome × Session) :
    List α → Session → Outcome × Session
  | [], s => (.good, s)
  | a :: rest, s =>
    match step s a with
    | (.good, s) => runUntil step rest s
    | result => result

/-- Loads the driver of a start. The run is over when a library that was named is not loaded. -/
def start (a : Arguments) (s : Session) : Bool × Session :=
  match a.loadLine? with
  | none => (true, s)
  | some line =>
    let (outcome, s) := s.runLine line
    (outcome == .good || a.library.isNone, s)

/-- Runs the scripts and then the lines of the command line. -/
def runBatch (a : Arguments) (s : Session) : Outcome × Session :=
  match runUntil runScriptFile a.scripts s with
  | (.good, s) => runUntil runLine a.commands s
  | result => result

/-- Whether the interactive loop follows on what was run. -/
def goesOn (a : Arguments) (last : Outcome) : Bool :=
  last != .quit && (!a.hasBatch || a.has .interactive)

end Session

/-- The lines of an input that is read to its end, with their backspaces applied. -/
def answersOf (input : String) : List Answer :=
  (Text.lines input.toList).map fun line => .line (String.ofList (Text.applyBackspaces line))

/-- Loads the driver and runs what the arguments name. Without an exit status the interactive loop
follows. -/
def Arguments.prepare (a : Arguments) (s : Session) : Option ExitStatus × Session :=
  match Session.start a { s with options := a.options } with
  | (false, s) => (some .failure, s)
  | (true, s) =>
    match Session.runBatch a s with
    | (last, s) => (if Session.goesOn a last then none else some (.ofOutcome last), s)

/-- Runs a session as the arguments ask, with the answers to come in the interactive loop. -/
def Arguments.run (a : Arguments) (answers : List Answer) (s : Session) : ExitStatus × Session :=
  match a.prepare s with
  | (some status, s) => (status, s)
  | (none, s) =>
    match s.interact .printed answers with
    | (last, s) => (.ofOutcome last, s)

/-- The history behind the lines that were entered in a session. -/
def Session.extendHistory (s : Session) (h : History) : History :=
  s.journal.reverse.foldl (fun h e =>
    match e with
    | .remembered line => h.add line
    | _ => h) h

/-- Runs the program: the exit status, and the session with what was printed and written. -/
def runProgram (arguments : List String) (answers : List Answer) (s : Session) :
    ExitStatus × Session :=
  match Arguments.read arguments with
  | .error .misuse => (.misuse, s)
  | .error (.asked n) => (.success, { s with out := s.out.tryWrite n.text })
  | .ok a => a.run answers s

end DriverBench
