import DriverBench.Simulator.State
/-!
# Kernels of the simulator

A kernel has a slot for each parameter of its declaration. It is launched when all slots are set
and the work sizes fit; a launch is recorded, not run.
-/

namespace DriverBench.Simulator

open Device

/-- A value that is handed to a kernel. -/
inductive ArgumentValue where
  | memory (m : Memory)
  | bytes (value : List UInt8)

/-- Creates the kernel of a name that a built program declares. -/
def createKernel (program : Handle) (name : String) : Call (Handle × String) := do
  let entry ← orFail ((← get).programs.get? program.id) "clCreateKernel" .invalidProgram
  if !entry.built then fail "clCreateKernel" .invalidProgramExecutable
  let signature ← orFail (entry.signatures.find? (·.name == name)) "clCreateKernel"
    .invalidKernelName
  let handle ← allocate .kernel
  modify fun s =>
    { s with kernels :=
        s.kernels.insert handle.id ⟨name, List.replicate signature.parameters none⟩ }
  return (handle, name)

/-- Creates a kernel with the name and the arguments of another. -/
def cloneKernel (kernel : Handle) : Call (Handle × String) := do
  let copy ← orFail ((← get).kernels.get? kernel.id) "clCloneKernel" .invalidKernel
  let handle ← allocate .kernel
  modify fun s => { s with kernels := s.kernels.insert handle.id copy }
  return (handle, copy.name)

/-- The argument that a value makes; memory must be known to the driver. -/
def argumentOf : ArgumentValue → Call Argument
  | .memory m => do
    let _ ← orFail ((← get).memories.get? m.handle.id) "clGetMemObjectInfo" .invalidMemObject
    return .memory m.handle.id
  | .bytes value => pure (.bytes value)

/-- Sets one argument of a kernel. -/
def setArgument (kernel : Handle) (index : Nat) (value : ArgumentValue) : Call Unit := do
  let argument ← argumentOf value
  let entry ← orFail ((← get).kernels.get? kernel.id) "clSetKernelArg" .invalidKernel
  if entry.slots.length ≤ index then fail "clSetKernelArg" .invalidArgIndex
  modify fun s =>
    { s with kernels := s.kernels.modify kernel.id fun k =>
        { k with slots := k.slots.set index (some argument) } }

/-- The call that launches kernels. -/
def launchCall : String := "clEnqueueNDRangeKernel"

/-- Why work sizes cannot be launched: a global size has one to three positive dimensions, and a
local size as many, each of which divides the global one. -/
def workSizeFault? (globalSize : List Nat) (localSize : Option (List Nat)) : Option Status :=
  if globalSize.isEmpty || 3 < globalSize.length then some .invalidWorkDimension
  else if globalSize.contains 0 then some .invalidGlobalWorkSize
  else
    match localSize with
    | none => none
    | some sizes =>
      if sizes.length ≠ globalSize.length then some .invalidWorkDimension
      else if (sizes.zip globalSize).any fun (l, g) => l == 0 || g % l != 0 then
        some .invalidWorkGroupSize
      else none

/-- Launches a kernel: records its name, the work sizes and its arguments. -/
def enqueueKernel (kernel : Handle) (globalSize : List Nat) (localSize : Option (List Nat)) :
    Call Unit := do
  match workSizeFault? globalSize localSize with
  | some status => fail launchCall status
  | none => pure ()
  let entry ← orFail ((← get).kernels.get? kernel.id) launchCall .invalidKernel
  let arguments ← orFail (entry.slots.mapM id) launchCall .invalidKernelArgs
  modify fun s =>
    { s with launches := s.launches ++ [⟨entry.name, globalSize, localSize, arguments⟩] }

/-- Sends what was enqueued to the device. -/
def flush : Call Unit :=
  modify fun s => { s with flushes := s.flushes + 1 }

/-- Waits until everything enqueued is done. -/
def finish : Call Unit :=
  modify fun s => { s with finishes := s.finishes + 1 }

end DriverBench.Simulator
