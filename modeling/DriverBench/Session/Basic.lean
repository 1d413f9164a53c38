import DriverBench.Caret
import DriverBench.Cursor
import DriverBench.Files.Tree
import DriverBench.Simulator.Fleet
import DriverBench.Simulator.Memory
/-!
# Sessions

A session is what a line works on: the bound names, the drivers that were started, the options,
the two output streams and the files. All of it is one value, and running a line gives another.

An object that a device holds lives as long as something in the session refers to it: a binding,
an operation that is still under way, or the line that is being run. When the last reference goes,
the driver is told (`Session.letGo`).
-/

namespace DriverBench

open Device Files Raster Simulator

/-- The prompt of the interactive loop. Carets of lines typed behind it are moved by its width. -/
def prompt : String := "cltb  > "

/-- What a line comes to. -/
inductive Outcome where
  | good
  /-- A failure was reported. -/
  | fail
  /-- No further lines are to be run. -/
  | quit
  deriving DecidableEq, Repr

/-- The options of a session. -/
structure Options where
  /-- Notes are printed. -/
  verbose : Bool := true
  /-- Failures are pointed at. -/
  caret : Bool := true
  /-- Lines of scripts are printed before they are run. -/
  echo : Bool := false
  /-- Operations of the driver are waited for. -/
  block : Bool := true
  deriving DecidableEq, Repr

/-- An object of a session. Its number tells two names of one object from two objects that look
alike. -/
structure Entity where
  serial : Nat
  object : Object
  deriving DecidableEq, Repr

/-- An output stream: what was written to it, or why each write fails. -/
structure Sink where
  text : String := ""
  broken : Option String := none
  deriving DecidableEq, Repr

/-- Writes text to a stream. -/
def Sink.write (s : Sink) (text : String) : Except String Sink :=
  match s.broken with
  | some why => if text.isEmpty then .ok s else .error why
  | none => .ok { s with text := s.text ++ text }

/-- Writes text to a stream, and does nothing when that fails. -/
def Sink.tryWrite (s : Sink) (text : String) : Sink :=
  match s.write text with
  | .ok s => s
  | .error _ => s

/-- What happened in a session. -/
inductive Event where
  /-- A line was run at a depth of scripts. -/
  | ran (depth : Nat) (line : String)
  /-- A failure of a line was reported; the line is empty when none was at fault. -/
  | reported (line : String) (failure : Failure)
  /-- The interactive loop asked for a line. -/
  | prompted
  /-- The interactive loop added a line to the history. -/
  | remembered (line : String)
  /-- The interactive loop saved the history. -/
  | saved
  deriving DecidableEq, Repr

/-- The state of a session. -/
structure Session where
  env : Environment Entity := {}
  /-- Objects that operations of the driver may still use. -/
  inFlight : List Entity := []
  /-- Objects that the current line holds until it is done. -/
  temporaries : List Entity := []
  fleet : Fleet := {}
  /-- The number of the driver in use. -/
  active : Option Nat := none
  options : Options := {}
  /-- How many scripts are being run inside one another. -/
  depth : Nat := 0
  out : Sink := {}
  err : Sink := {}
  files : FileTree := {}
  codec : Codec
  /-- The number of objects that were made. -/
  entities : Nat := 0
  /-- What happened, latest first. -/
  journal : List Event := []

/-- Something a session does that may fail. What was done before a failure stays done. -/
abbrev Action (α : Type) := ExceptT Failure (StateM Session) α

namespace Session

/-- The driver in use. -/
def driver? (s : Session) : Option State :=
  s.active.bind s.fleet.get?

/-- The objects that the session refers to. -/
def held (s : Session) : List Entity :=
  s.env.values ++ s.inFlight ++ s.temporaries

/-- Whether the session refers to what a handle names. -/
def holds (s : Session) (h : Handle) : Bool :=
  s.held.any fun e => e.object.handle? == some h

/-- Drops a handle: unless something else refers to the same, its issuer is told. -/
def letGoHandle (s : Session) (h : Handle) : Session :=
  if s.holds h then s else { s with fleet := s.fleet.release h }

/-- Drops references to objects. -/
def letGo (s : Session) (es : List Entity) : Session :=
  (es.filterMap (·.object.handle?)).foldl letGoHandle s

/-- Drops what the current line holds. -/
def dropTemporaries (s : Session) : Session :=
  { s with temporaries := [] }.letGo s.temporaries

/-- Takes the objects of the device out of the bindings and of the operations under way, and tells
how many bindings there were. -/
def invalidate (s : Session) : Nat × Session :=
  let isOwned (e : Entity) : Bool := e.object.isDriverOwned
  let (count, env) := s.env.clearWhere isOwned
  let kept := { s with env, inFlight := s.inFlight.filter fun e => !isOwned e }
  (count, kept.letGo ((s.env.values ++ s.inFlight).filter isOwned))

/-- Starts a new driver in place of the one in use, and tells how many bindings that ended. -/
def setDriver (s : Session) : Nat × Session :=
  let (count, s) := s.invalidate
  let (serial, fleet) := s.fleet.start
  let fleet := fleet.modify serial fun d => { d with blocking := s.options.block }
  (count, { s with fleet, active := some serial })

/-- Drops everything that the session refers to, as at its end. -/
def close (s : Session) : Session :=
  { s with env := {}, inFlight := [], temporaries := [] }.letGo s.held

/-- Notes down what happened. -/
def note (s : Session) (e : Event) : Session :=
  { s with journal := e :: s.journal }

/-- The carets under a failed line, as they are printed: behind the prompt, or under the line, which
is printed first unless it was echoed. -/
def caretText (s : Session) (line caret : String) : String :=
  if s.depth = 0 then String.ofList (List.replicate prompt.length ' ') ++ caret ++ "\n"
  else if s.options.echo then caret ++ "\n"
  else line ++ "\n" ++ caret ++ "\n"

/-- What is printed about a failure of a line. -/
def reportText (s : Session) (line : String) (f : Failure) : String :=
  let pointed := if s.options.caret then f.span.bind (caretLine line) else none
  let carets := match pointed with
    | some caret => s.caretText line caret
    | none => ""
  carets ++ f.fault.message ++ "\n"

/-- Reports a failure of a line. A stream that cannot be written to is let be. -/
def report (s : Session) (line : String) (f : Failure) : Session :=
  { s with err := s.err.tryWrite (s.reportText line f) }.note (.reported line f)

end Session

namespace Action

/-- Fails without a place. -/
def raise {α : Type} (fault : Fault) : Action α :=
  throw { fault }

/-- Gives a failure a place, unless it has one. -/
def atSpan {α : Type} (a : Action α) (span : Span) : Action α :=
  tryCatch a fun f => throw (f.atSpan span)

/-- Writes text to the output. -/
def print (text : String) : Action Unit := do
  let s ← get
  match s.out.write text with
  | .ok out => set { s with out }
  | .error why => raise (.output why)

/-- Writes text to the error stream. -/
def printError (text : String) : Action Unit := do
  let s ← get
  match s.err.write text with
  | .ok err => set { s with err }
  | .error why => raise (.output why)

/-- Prints a line. -/
def say (text : String) : Action Unit :=
  print (text ++ "\n")

/-- Prints a line if notes are wanted. -/
def note (text : String) : Action Unit := do
  if (← get).options.verbose then say text

/-- Prints a warning. -/
def warn (text : String) : Action Unit :=
  printError ("警告: " ++ text ++ "\n")

/-- The driver in use, or a failure. -/
def activeDriver : Action State := do
  match (← get).driver? with
  | some d => return d
  | none => raise .noDriver

/-- Makes a call of the driver in use. -/
def drive {α : Type} (c : Call α) : Action α := do
  let s ← get
  match s.active with
  | none => raise .noDriver
  | some serial =>
    match s.fleet.call serial c with
    | (none, _) => raise .noDriver
    | (some (.ok a), fleet) => do
      set { s with fleet }
      return a
    | (some (.error e), fleet) => do
      set { s with fleet }
      raise (.driver e)

/-- Gives an object a number of its own. -/
def enter (object : Object) : Action Entity := do
  let s ← get
  set { s with entities := s.entities + 1 }
  return ⟨s.entities, object⟩

/-- Keeps an object until the current line is done. -/
def keep (e : Entity) : Action Unit :=
  modify fun s => { s with temporaries := s.temporaries ++ [e] }

end Action

end DriverBench
