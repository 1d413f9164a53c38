import DriverBench.Script
/-!
# The interactive loop

The loop asks for lines and runs them until one quits or there is no more to be read. What it does,
it notes down in the session: that it asked, which line it added to the history, and that it saved
the history in the end.
-/

namespace DriverBench

/-- What asking for a line comes to. -/
inductive Answer where
  | line (text : String)
  /-- The line was given up; another one is asked for. -/
  | interrupted
  /-- There are no more lines. -/
  | finished
  /-- Reading failed. -/
  | failed
  deriving DecidableEq, Repr

/-- What happens to a session when the loop asks for a line: nothing can be seen of it, or the
prompt is printed as well. -/
inductive Prompting where
  | silent | printed
  deriving DecidableEq, Repr

namespace Session

/-- Asks for a line. A prompt that cannot be printed is let be. -/
def ask (s : Session) : Prompting → Session
  | .silent => s.note .prompted
  | .printed => { s with out := s.out.tryWrite prompt }.note .prompted

/-- Adds a line to the history and runs it. -/
def enterLine (s : Session) (line : String) : Outcome × Session :=
  (s.note (.remembered line)).runLine line

/-- Takes an answer in. The loop goes on if there is no outcome. -/
def accept (s : Session) : Answer → Option Outcome × Session
  | .finished => (some .good, s)
  | .failed => (some .fail, s)
  | .interrupted => (none, s)
  | .line text =>
    match s.enterLine text with
    | (.quit, s) => (some .quit, s)
    | (_, s) => (none, s)

/-- Asks for lines and runs them, with the answers to come. Behind the last answer there is
nothing more to be read. -/
def converse (p : Prompting) : List Answer → Session → Outcome × Session
  | [], s => (.good, s.ask p)
  | answer :: rest, s =>
    match (s.ask p).accept answer with
    | (some outcome, s) => (outcome, s)
    | (none, s) => converse p rest s

/-- Runs the interactive loop to its end. -/
def interact (s : Session) (p : Prompting) (answers : List Answer) : Outcome × Session :=
  let (outcome, s) := converse p answers s
  (outcome, s.note .saved)

end Session

end DriverBench
