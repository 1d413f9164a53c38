import DriverBench.Simulator.State
/-!
# Platforms and devices of the simulator

There is one platform with two devices. Selecting a platform selects its first device.
-/

namespace DriverBench.Simulator

open Device

/-- What is shown of a platform. -/
structure PlatformInfo where
  name : String
  vendor : String
  version : String
  deriving DecidableEq, Repr

/-- What is shown of a device; its memory is given in bytes. -/
structure DeviceInfo where
  name : String
  vendor : String
  version : String
  computeUnits : Nat
  globalMemory : Nat
  deriving DecidableEq, Repr

/-- The name under which the simulator introduces itself. -/
def libraryName : String := "sim"

/-- The number of bytes of a megabyte. -/
def megabyte : Nat := 0x100000

/-- The platforms. -/
def platforms : List PlatformInfo :=
  [⟨"Sim Platform", "cltb", "OpenCL 1.2 sim"⟩]

/-- The devices of the platform. -/
def devices : List DeviceInfo :=
  [⟨"Sim CPU", "cltb", "OpenCL 1.2 sim", 4, 256 * megabyte⟩,
    ⟨"Sim GPU", "cltb", "OpenCL 1.2 sim", 8, 256 * megabyte⟩]

/-- Selects a platform and its first device. -/
def selectPlatform (index : Nat) : Call Unit := do
  if platforms.length ≤ index then fail "clGetPlatformIDs" .invalidPlatform
  modify fun s => { s with selection := ⟨index, 0⟩ }

/-- Selects a device. -/
def selectDevice (index : Nat) : Call Unit := do
  if devices.length ≤ index then fail "clGetDeviceIDs" .invalidDevice
  modify fun s => { s with selection := { s.selection with device := index } }

/-- Says whether operations are waited for. -/
def setBlocking (blocking : Bool) : Call Unit :=
  modify fun s => { s with blocking }

/-- The names under which the simulator can be loaded; the first one is the default. -/
def libraryNames : List String := ["sim", "simulator", "dummy"]

/-- The library that is loaded when none is named. -/
def defaultLibrary : String := "sim"

/-- Checks that a library of a name can be loaded; names compare without regard to case. -/
def findLibrary (name : String) : Except LibraryError Unit :=
  if libraryNames.contains (Text.foldCase name) then .ok ()
  else .error (.notFound name libraryNames)

end DriverBench.Simulator
