import DriverBench.Command.Argument
import DriverBench.Listing
/-!
# Commands about the driver

`load` starts a driver, `select` shows or changes the platform and the device in use, `info` tells
about them, `wait` and `flush` are about the operations under way.
-/

namespace DriverBench

open Device Simulator

/-- What can be selected. -/
inductive SelectionTarget where
  | platform | device
  deriving DecidableEq, Repr

namespace SelectionTarget

/-- What can be selected, in the order in which it is listed. -/
def all : List SelectionTarget := [.platform, .device]

/-- The name of what can be selected. -/
def name : SelectionTarget → String
  | .platform => "platform"
  | .device => "device"

/-- The driver call that selects by number. -/
def select : SelectionTarget → Nat → Call Unit
  | .platform => selectPlatform
  | .device => selectDevice

end SelectionTarget

/-- What information can be asked for. -/
inductive InfoTopic where
  | library | platforms | devices
  deriving DecidableEq, Repr

namespace InfoTopic

/-- The topics, in the order in which they are shown. -/
def all : List InfoTopic := [.library, .platforms, .devices]

/-- The name of a topic. -/
def name : InfoTopic → String
  | .library => "library"
  | .platforms => "platforms"
  | .devices => "devices"

/-- What is printed about a topic. -/
def text (selection : Selection) : InfoTopic → String
  | .library => s!"ライブラリ: {libraryName}\n"
  | .platforms => platformList Simulator.platforms selection.platform
  | .devices => deviceList Simulator.devices selection.device

end InfoTopic

namespace Statement

open Reading

/-- Reads the name of the library to load, if one is given, with its token. -/
def libraryArgument : Reading (String × Option Token) := do
  if !(← hasMore) then return (defaultLibrary, none)
  let t ← consume
  let name ← lift t.wordOrText
  return (name, some t)

/-- The failure of a load, at the name if one was given. -/
def libraryFailure (e : LibraryError) (t : Option Token) : Failure :=
  ⟨.library e, t.map Token.span⟩

/-- The command `load [LIB]`: starts a driver in place of the one in use. -/
def load : Reading Outcome := do
  let (name, t) ← libraryArgument
  warnTrailing .load
  match findLibrary name with
  | .error e => throw (libraryFailure e t)
  | .ok () => do
    let (cleared, s) := (← session).setDriver
    change fun _ => s
    Action.note s!"ドライバ '{name}' を読み込みました"
    noteCleared cleared
    return .good

/-- Shows the platform and the device in use. -/
def showSelection : Reading Outcome := do
  let selection := (← Action.activeDriver).selection
  let platform := (platforms[selection.platform]?.map PlatformInfo.name).getD ""
  let device := (devices[selection.device]?.map DeviceInfo.name).getD ""
  Action.say s!"プラットフォーム {selection.platform}: {platform}"
  Action.say s!"デバイス {selection.device}: {device}"
  return .good

/-- Reads what is to be selected and selects it. The objects of the device are let go. -/
def changeSelection : Reading Outcome := do
  let target ← choice "選択対象" SelectionTarget.name SelectionTarget.all
  let (index, t) ← sizeArgument "番号"
  warnTrailing .select
  let _ ← Action.activeDriver
  Action.atSpan (Action.drive (target.select index)) t.span
  let (cleared, s) := (← session).invalidate
  change fun _ => s
  Action.note s!"{target.name} {index} を選択しました"
  noteCleared cleared
  return .good

/-- The command `select [platform N | device N]`. -/
def select : Reading Outcome := do
  if ← hasMore then changeSelection else showSelection

/-- Reads what information is asked for: one topic, or all of them. -/
def infoTopics : Reading (List InfoTopic) := do
  if !(← hasMore) then return InfoTopic.all
  return [← choice "情報の種類" InfoTopic.name InfoTopic.all]

/-- The command `info [library | platforms | devices]`. -/
def info : Reading Outcome := do
  let topics ← infoTopics
  warnTrailing .info
  let selection := (← Action.activeDriver).selection
  Action.print (String.join (topics.map (InfoTopic.text selection)))
  return .good

/-- The command `wait`: waits until everything is done, and lets go what was kept for that. -/
def wait : Reading Outcome := do
  warnTrailing .wait
  Action.drive finish
  change fun s => { s with inFlight := [] }.letGo s.inFlight
  return .good

/-- The command `flush`: sends what was enqueued to the device. -/
def flush : Reading Outcome := do
  warnTrailing .flush
  Action.drive Simulator.flush
  return .good

end Statement

end DriverBench
