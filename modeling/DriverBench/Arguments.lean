/-!
# Command-line arguments

Switches stand behind one or two dashes; switches of one letter can be grouped. An option's value
is attached to it, with or without an equal sign, or is the next argument, which then must not look
like an option. What is no option is the library to load, of which there is at most one; behind
`--` nothing is an option.

Arguments are read from left to right, and the first thing wrong with them decides.
-/

namespace DriverBench

/-- The switches. -/
inductive Switch where
  /-- Load no driver at the start. -/
  | noAutoLoad
  /-- Enter the interactive loop even when there was something else to run. -/
  | interactive
  /-- Print no notes. -/
  | quiet
  /-- Do not point at failures. -/
  | noCaret
  /-- Print the lines of scripts. -/
  | echo
  /-- Do not wait for operations of the driver. -/
  | noBlock
  deriving DecidableEq, Repr

namespace Switch

/-- Every switch. -/
def all : List Switch := [.noAutoLoad, .interactive, .quiet, .noCaret, .echo, .noBlock]

/-- The word behind two dashes. -/
def word : Switch → String
  | .noAutoLoad => "no-auto-load"
  | .interactive => "interactive"
  | .quiet => "quiet"
  | .noCaret => "no-caret"
  | .echo => "echo"
  | .noBlock => "no-block"

/-- The letter behind one dash. -/
def letter? : Switch → Option Char
  | .interactive => some 'i'
  | .quiet => some 'q'
  | _ => none

end Switch

/-- The options that have a value. -/
inductive ValueOption where
  /-- A script to run. -/
  | script
  /-- A line to run. -/
  | command
  deriving DecidableEq, Repr

namespace ValueOption

/-- Every option with a value. -/
def all : List ValueOption := [.script, .command]

/-- The word behind two dashes. -/
def word : ValueOption → String
  | .script => "script"
  | .command => "command"

/-- The letter behind one dash. -/
def letter : ValueOption → Char
  | .script => 's'
  | .command => 'c'

end ValueOption

/-- What can be asked for instead of a session. -/
inductive Notice where
  | version | usage
  deriving DecidableEq, Repr

namespace Notice

/-- Every notice. -/
def all : List Notice := [.version, .usage]

/-- The word behind two dashes. -/
def word : Notice → String
  | .version => "version"
  | .usage => "help"

/-- The letter behind one dash. -/
def letter : Notice → Char
  | .version => 'V'
  | .usage => 'h'

end Notice

/-- What an option is. -/
inductive OptionKind where
  | switch (s : Switch)
  | value (o : ValueOption)
  | notice (n : Notice)
  deriving DecidableEq, Repr

namespace OptionKind

/-- Every option. -/
def all : List OptionKind :=
  Switch.all.map .switch ++ ValueOption.all.map .value ++ Notice.all.map .notice

/-- The word of an option. -/
def word : OptionKind → String
  | .switch s => s.word
  | .value o => o.word
  | .notice n => n.word

/-- The letter of an option. -/
def letter? : OptionKind → Option Char
  | .switch s => s.letter?
  | .value o => some o.letter
  | .notice n => some n.letter

/-- The option of a word. -/
def ofWord? (word : List Char) : Option OptionKind :=
  all.find? fun k => k.word.toList == word

/-- The option of a letter. -/
def ofLetter? (c : Char) : Option OptionKind :=
  all.find? fun k => k.letter? == some c

end OptionKind

/-- The arguments of a run. -/
structure Arguments where
  library : Option String := none
  switches : List Switch := []
  scripts : List String := []
  commands : List String := []
  deriving DecidableEq, Repr

/-- Why reading arguments comes to an end before the last one. -/
inductive Halt where
  /-- The arguments are wrong. -/
  | misuse
  /-- Something else than a session is asked for. -/
  | asked (n : Notice)
  deriving DecidableEq, Repr

namespace Arguments

/-- Whether a switch is on. -/
def has (a : Arguments) (s : Switch) : Bool :=
  a.switches.contains s

/-- Turns a switch on, once. -/
def turnOn (a : Arguments) (s : Switch) : Except Halt Arguments :=
  if a.has s then .error .misuse else .ok { a with switches := a.switches ++ [s] }

/-- Adds the value of an option. A script has a name that is not empty. -/
def addValue (a : Arguments) (value : String) : ValueOption → Except Halt Arguments
  | .script =>
    if value.isEmpty then .error .misuse else .ok { a with scripts := a.scripts ++ [value] }
  | .command => .ok { a with commands := a.commands ++ [value] }

/-- Takes a library to load, once. -/
def addLibrary (a : Arguments) (name : String) : Except Halt Arguments :=
  if a.library.isSome then .error .misuse else .ok { a with library := some name }

/-- The arguments so far, and the option that waits for a value if there is one. -/
abbrev Progress := Arguments × Option ValueOption

/-- Reads an option of two dashes: its word, and perhaps a value behind an equal sign. -/
def readLong (a : Arguments) (body : List Char) : Except Halt Progress :=
  let word := body.takeWhile (· ≠ '=')
  let attached := (body.drop word.length).tail?
  match OptionKind.ofWord? word, attached with
  | some (.switch s), none => (a.turnOn s).map (·, none)
  | some (.value o), some value => (a.addValue (String.ofList value) o).map (·, none)
  | some (.value o), none => .ok (a, some o)
  | some (.notice n), none => .error (.asked n)
  | _, _ => .error .misuse

/-- The value that is attached to a letter. -/
def attachedValue : List Char → List Char
  | '=' :: value => value
  | value => value

/-- Reads a group of letters. All that follows the letter of an option with a value is its
value. -/
def readLetters (a : Arguments) : List Char → Except Halt Progress
  | [] => .ok (a, none)
  | c :: rest =>
    match OptionKind.ofLetter? c with
    | some (.switch s) => do readLetters (← a.turnOn s) rest
    | some (.value o) =>
      if rest.isEmpty then .ok (a, some o)
      else (a.addValue (String.ofList (attachedValue rest)) o).map (·, none)
    | some (.notice n) => .error (.asked n)
    | none => .error .misuse

/-- Reads one argument, before any `--`. -/
def readArgument (a : Arguments) (argument : String) : Except Halt Progress :=
  match argument.toList with
  | '-' :: '-' :: body => a.readLong body
  | '-' :: c :: letters => a.readLetters (c :: letters)
  | _ => (a.addLibrary argument).map (·, none)

/-- Whether an argument looks like an option. A single dash does not. -/
def looksLikeOption (argument : String) : Bool :=
  match argument.toList with
  | '-' :: _ :: _ => true
  | _ => false

/-- Reads arguments behind those that were read. -/
def readFrom : Progress → List String → Except Halt Arguments
  | (a, none), [] => .ok a
  | (_, some _), [] => .error .misuse
  | (a, none), argument :: rest => do
    if argument = "--" then rest.foldlM addLibrary a
    else readFrom (← a.readArgument argument) rest
  | (a, some o), value :: rest => do
    if looksLikeOption value then .error .misuse
    else readFrom (← a.addValue value o, none) rest

/-- Reads all arguments of a run. -/
def read (arguments : List String) : Except Halt Arguments :=
  readFrom ({}, none) arguments

end Arguments

end DriverBench
