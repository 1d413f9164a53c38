import DriverBench.Text.Abbreviation
/-!
# The names of commands

A line that is no assignment starts with the name of a command, which may be abbreviated.
-/

namespace DriverBench

/-- The commands. -/
inductive Command where
  | load | select | info | list | set | release | save | run | script | wait | flush | bind | help
  | quit
  deriving DecidableEq, Repr

namespace Command

/-- The commands, in the order in which they are listed. -/
def all : List Command :=
  [.load, .select, .info, .list, .set, .release, .save, .run, .script, .wait, .flush, .bind,
    .help, .quit]

/-- The name of a command. -/
def name : Command → String
  | .load => "load"
  | .select => "select"
  | .info => "info"
  | .list => "list"
  | .set => "set"
  | .release => "release"
  | .save => "save"
  | .run => "run"
  | .script => "script"
  | .wait => "wait"
  | .flush => "flush"
  | .bind => "bind"
  | .help => "help"
  | .quit => "quit"

/-- The names of all commands. -/
def names : List String := all.map name

/-- Resolves the abbreviation of a name. -/
def resolve (text : String) : Text.Resolution :=
  Text.resolve text names

/-- The names that a text may stand for. -/
def candidates (text : String) : List String :=
  Text.completions text names

end Command

end DriverBench
