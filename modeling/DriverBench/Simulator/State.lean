import DriverBench.Device.Object
import DriverBench.Device.Status
import DriverBench.Simulator.Declaration
import DriverBench.Table
/-!
# The state of a simulated driver

The simulator keeps the contents of buffers and images as bytes, the source of programs, and the
arguments of kernels. It runs no kernel; it records that it was told to.
-/

namespace DriverBench.Simulator

open Device

/-- The contents of a buffer or an image. -/
structure Storage where
  bytes : List UInt8
  image : Option (ImageFormat × ImageDesc)
  deriving DecidableEq, Repr

/-- A program: its source, and after a build the kernels that it declares. -/
structure Program where
  source : String
  built : Bool := false
  signatures : List Signature := []
  deriving DecidableEq, Repr

/-- The value of a kernel's argument: memory of the device, or bytes. -/
inductive Argument where
  | memory (id : Nat)
  | bytes (value : List UInt8)
  deriving DecidableEq, Repr

/-- A kernel, with a slot for each of its arguments. -/
structure Kernel where
  name : String
  slots : List (Option Argument)
  deriving DecidableEq, Repr

/-- A recorded launch of a kernel. -/
structure Launch where
  kernel : String
  globalSize : List Nat
  localSize : Option (List Nat)
  arguments : List Argument
  deriving DecidableEq, Repr

/-- The platform and the device in use, by their places in the lists. -/
structure Selection where
  platform : Nat := 0
  device : Nat := 0
  deriving DecidableEq, Repr

/-- The state of one simulated driver. -/
structure State where
  /-- The number by which the handles of this driver name their issuer. -/
  serial : Nat := 0
  /-- The last id that was given out. -/
  lastId : Nat := 0
  memories : Table Storage := {}
  programs : Table Program := {}
  kernels : Table Kernel := {}
  /-- The launches so far, oldest first. -/
  launches : List Launch := []
  flushes : Nat := 0
  finishes : Nat := 0
  selection : Selection := {}
  /-- Whether operations are waited for. -/
  blocking : Bool := true

/-- A call of the driver. A call that fails has still run up to its failure. -/
abbrev Call (α : Type) := ExceptT DriverError (StateM State) α

namespace State

/-- The number of objects that were created and not released. -/
def liveCount (s : State) : Nat :=
  s.memories.size + s.programs.size + s.kernels.size

/-- Forgets the object that a handle names. -/
def release (s : State) (h : Handle) : State :=
  match h.kind with
  | .buffer | .image => { s with memories := s.memories.erase h.id }
  | .program => { s with programs := s.programs.erase h.id }
  | .kernel => { s with kernels := s.kernels.erase h.id }

/-- The bytes of the memory with an id. -/
def contents? (s : State) (id : Nat) : Option (List UInt8) :=
  (s.memories.get? id).map (·.bytes)

end State

/-- A call that fails with a status. -/
def fail {α : Type} (call : String) (status : Status) : Call α :=
  throw (.returned call status)

/-- The value, or a failure with a status when there is none. -/
def orFail {α : Type} (value : Option α) (call : String) (status : Status) : Call α :=
  match value with
  | some a => pure a
  | none => fail call status

/-- Gives a new handle out. Ids go up and are never given out twice. -/
def allocate (kind : HandleKind) : Call Handle := do
  let s ← get
  let id := s.lastId + 1
  set { s with lastId := id }
  return ⟨id, kind, some s.serial⟩

end DriverBench.Simulator
