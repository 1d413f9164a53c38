/-!
# Failures of a device driver

A driver call that fails names the call and a status code. A program that does not build carries
the log of its build instead.
-/

namespace DriverBench.Device

/-- The status codes of driver calls, with their numbers and names. -/
inductive Status where
  | outOfHostMemory
  | buildProgramFailure
  | invalidValue
  | invalidPlatform
  | invalidDevice
  | invalidMemObject
  | invalidImageFormatDescriptor
  | invalidImageSize
  | invalidBinary
  | invalidProgram
  | invalidProgramExecutable
  | invalidKernelName
  | invalidKernel
  | invalidArgIndex
  | invalidKernelArgs
  | invalidWorkDimension
  | invalidWorkGroupSize
  | invalidBufferSize
  | invalidGlobalWorkSize
  deriving DecidableEq, Repr

namespace Status

/-- Every status that has a name. -/
def all : List Status :=
  [.outOfHostMemory, .buildProgramFailure, .invalidValue, .invalidPlatform, .invalidDevice,
    .invalidMemObject, .invalidImageFormatDescriptor, .invalidImageSize, .invalidBinary,
    .invalidProgram, .invalidProgramExecutable, .invalidKernelName, .invalidKernel,
    .invalidArgIndex, .invalidKernelArgs, .invalidWorkDimension, .invalidWorkGroupSize,
    .invalidBufferSize, .invalidGlobalWorkSize]

/-- The number of a status. -/
def code : Status → Int
  | .outOfHostMemory => -6
  | .buildProgramFailure => -11
  | .invalidValue => -30
  | .invalidPlatform => -32
  | .invalidDevice => -33
  | .invalidMemObject => -38
  | .invalidImageFormatDescriptor => -39
  | .invalidImageSize => -40
  | .invalidBinary => -42
  | .invalidProgram => -44
  | .invalidProgramExecutable => -45
  | .invalidKernelName => -46
  | .invalidKernel => -48
  | .invalidArgIndex => -49
  | .invalidKernelArgs => -52
  | .invalidWorkDimension => -53
  | .invalidWorkGroupSize => -54
  | .invalidBufferSize => -61
  | .invalidGlobalWorkSize => -63

/-- The symbol of a status. -/
def symbol : Status → String
  | .outOfHostMemory => "CL_OUT_OF_HOST_MEMORY"
  | .buildProgramFailure => "CL_BUILD_PROGRAM_FAILURE"
  | .invalidValue => "CL_INVALID_VALUE"
  | .invalidPlatform => "CL_INVALID_PLATFORM"
  | .invalidDevice => "CL_INVALID_DEVICE"
  | .invalidMemObject => "CL_INVALID_MEM_OBJECT"
  | .invalidImageFormatDescriptor => "CL_INVALID_IMAGE_FORMAT_DESCRIPTOR"
  | .invalidImageSize => "CL_INVALID_IMAGE_SIZE"
  | .invalidBinary => "CL_INVALID_BINARY"
  | .invalidProgram => "CL_INVALID_PROGRAM"
  | .invalidProgramExecutable => "CL_INVALID_PROGRAM_EXECUTABLE"
  | .invalidKernelName => "CL_INVALID_KERNEL_NAME"
  | .invalidKernel => "CL_INVALID_KERNEL"
  | .invalidArgIndex => "CL_INVALID_ARG_INDEX"
  | .invalidKernelArgs => "CL_INVALID_KERNEL_ARGS"
  | .invalidWorkDimension => "CL_INVALID_WORK_DIMENSION"
  | .invalidWorkGroupSize => "CL_INVALID_WORK_GROUP_SIZE"
  | .invalidBufferSize => "CL_INVALID_BUFFER_SIZE"
  | .invalidGlobalWorkSize => "CL_INVALID_GLOBAL_WORK_SIZE"

/-- The symbol of a status number, whether it has a name or not. -/
def symbolOf (code : Int) : String :=
  match all.find? (·.code == code) with
  | some s => s.symbol
  | none => "CL_UNKNOWN_ERROR"

end Status

/-- Why a driver call failed. -/
inductive DriverError where
  /-- The call returned a status number. -/
  | api (call : String) (code : Int)
  | buildFailure (log : String)
  | unsupported (feature : String)
  deriving DecidableEq, Repr

namespace DriverError

/-- A call that returned a named status. -/
def returned (call : String) (s : Status) : DriverError :=
  .api call s.code

/-- The diagnostic code of a driver failure. -/
def code : DriverError → String
  | .api .. => "DRV001"
  | .buildFailure _ => "DRV002"
  | .unsupported _ => "DRV003"

/-- The wording of a driver failure. -/
def message : DriverError → String
  | .api call code =>
    let symbol := Status.symbolOf code
    s!"{call} が {symbol} ({code}) を返しました"
  | .buildFailure _ => "プログラムのビルドに失敗しました"
  | .unsupported feature => s!"ドライバが {feature} をサポートしていません"

end DriverError

/-- Why no driver was loaded. -/
inductive LibraryError where
  | notFound (name : String) (available : List String)
  deriving DecidableEq, Repr

/-- The wording of a failed load. -/
def LibraryError.message : LibraryError → String
  | .notFound name available =>
    let known := String.intercalate ", " available
    s!"ドライバライブラリ '{name}' を読み込めません（利用可能: {known}）"

end DriverBench.Device
