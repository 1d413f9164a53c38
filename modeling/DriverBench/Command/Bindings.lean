import DriverBench.Command.Argument
import DriverBench.Listing
/-!
# Commands about bindings and options

An assignment binds a name, `release` takes bindings away, `list` shows them, and `set` shows or
changes the options.
-/

namespace DriverBench

open Number

/-- The options that can be set. -/
inductive Setting where
  | verbose | caret | echo | block
  deriving DecidableEq, Repr

namespace Setting

/-- The settings, in the order in which they are listed. -/
def all : List Setting := [.verbose, .caret, .echo, .block]

/-- The name of a setting. -/
def name : Setting → String
  | .verbose => "verbose"
  | .caret => "caret"
  | .echo => "echo"
  | .block => "block"

/-- The value of a setting. -/
def value (o : Options) : Setting → Bool
  | .verbose => o.verbose
  | .caret => o.caret
  | .echo => o.echo
  | .block => o.block

/-- The options with a setting changed. -/
def change (o : Options) (value : Bool) : Setting → Options
  | .verbose => { o with verbose := value }
  | .caret => { o with caret := value }
  | .echo => { o with echo := value }
  | .block => { o with block := value }

/-- The width of the names of settings in their list. -/
def nameWidth : Nat := 8

/-- What is printed of a setting. -/
def text (o : Options) (s : Setting) : String :=
  padRight nameWidth s.name ++ " " ++ toString (s.value o) ++ "\n"

end Setting

namespace Session

/-- Changes a setting; the driver is told of `block`. -/
def configure (s : Session) (setting : Setting) (value : Bool) : Session :=
  let s := { s with options := setting.change s.options value }
  match setting, s.active with
  | .block, some serial =>
    { s with fleet := s.fleet.modify serial fun d => { d with blocking := value } }
  | _, _ => s

/-- Takes bindings away and lets their objects go, or none if one of the names is not bound. -/
def unbind (s : Session) (names : List String) : Except BindingError (Nat × Session) :=
  (s.env.release names).map fun (count, env) =>
    let released := s.env.bindings.filter fun b => names.contains b.1
    (count, { s with env }.letGo (released.map Prod.snd))

end Session

namespace Statement

open Reading

/-- Reads the name that an assignment binds. -/
def target : Reading String := do
  let t ← consume
  if t.kind ≠ .word then raise .targetRequired t.span
  if (← session).env.contains t.text then raise (.binding (.alreadyBound t.text)) t.span
  return t.text

/-- Binds a name to an object. -/
def bindName (name : String) (e : Entity) : Reading Unit := do
  let s ← session
  match s.env.insert name e with
  | .ok env => change fun s => { s with env }
  | .error fault => Action.raise (.binding fault)

/-- The assignment `NAME = EXPR`. Nothing is bound when input is left over. -/
def assignment : Reading Outcome := do
  let name ← target
  advance
  let e ← evaluate
  if (← current).kind ≠ .finish then
    change (·.letGo [e])
    raise .trailingInput (← cursor).remainingSpan
  bindName name e
  return .good

/-- The command `list`. -/
def list : Reading Outcome := do
  warnTrailing .list
  let env := (← session).env
  if env.isEmpty then
    Action.say "束縛されたオブジェクトはありません"
    return .good
  let rows := env.bindings.map fun (name, e) => (name, e.object.typeTag)
  Action.print (table ("Identifier", "Type") rows)
  return .good

/-- Reads the value of a setting. -/
def truthValue : Reading Bool := do
  let t ← current
  if !(← hasMore) then raise .truthValueRequired t.span
  advance
  lift (t.located (readBool t.text))

/-- Shows all settings. -/
def showSettings : Reading Outcome := do
  let options := (← session).options
  Action.print (String.join (Setting.all.map (Setting.text options)))
  return .good

/-- Reads a setting with its new value and changes it. -/
def changeSetting : Reading Outcome := do
  let setting ← choice "オプション" Setting.name Setting.all
  let value ← truthValue
  warnTrailing .set
  change (·.configure setting value)
  return .good

/-- The command `set [OPTION BOOL]`. -/
def settings : Reading Outcome := do
  if ← hasMore then changeSetting else showSettings

/-- Reads one of the names to be released, behind those that were read. Commas between them mean
nothing. -/
def releasedName (names : List String) : Reading (Step (List String)) := do
  if !(← hasMore) then return .done names
  let t ← consume
  if t.kind = .comma then return .next names
  if t.kind ≠ .word then raise .identifierRequired t.span
  if !(← session).env.contains t.text then raise (.binding (.notFound t.text)) t.span
  return .next (names ++ [t.text])

/-- The command `release NAME...`: for all names or for none. -/
def release : Reading Outcome := do
  if !(← hasMore) then raise .releaseNamesRequired (← here)
  let names ← loop releasedName []
  refuseInvalid
  match (← session).unbind names with
  | .error e => Action.raise (.binding e)
  | .ok (count, s) => do
    change fun _ => s
    Action.note s!"{count} 個の束縛を解放しました"
    return .good

end Statement

end DriverBench
