import DriverBench.Command.Argument
/-!
# Saving objects

`save OBJ FILE` writes the bytes of an object to a file: as a picture, if the object is an image
and the name is one of a picture file.
-/

namespace DriverBench

open Device Simulator

namespace Statement

open Reading

/-- The largest number of bytes that can be asked of the host. -/
def reserveLimit : Nat := 0x7FFFFFFFFFFFFFFF

/-- Bytes of the host for what is read from the device. -/
def reserve (size : Nat) : Except ReserveError (List UInt8) :=
  if reserveLimit < size then .error .overflow
  else if allocationLimit ≤ size then .error .exhausted
  else .ok (List.replicate size 0)

/-- The bytes of a file that is to hold an image: a picture, if the path is one of a picture
file. -/
def imageFile (path : String) (format : ImageFormat) (desc : ImageDesc) (bytes : List UInt8) :
    Action (List UInt8) := do
  match (← get).codec.encode path format desc bytes with
  | .error e => Action.raise (.codec e)
  | .ok (some encoded) => return encoded
  | .ok none => return bytes

/-- The bytes of a file that is to hold the contents of device memory. -/
def memoryFile (path : String) (m : Memory) : Action (List UInt8) := do
  match reserve m.size with
  | .error e => Action.raise (.reserve e)
  | .ok room =>
    match m.image with
    | some (format, desc) => do
      let bytes ← Action.drive (readImage m (0, 0, 0) desc.region room)
      imageFile path format desc bytes
    | none => Action.drive (readBuffer m 0 m.size)

/-- The bytes of a file that is to hold an object. -/
def fileBytes (path : String) : Object → Action (List UInt8)
  | .data d => return d.bytes
  | .image i => imageFile path i.format i.desc i.data.bytes
  | .memory m => memoryFile path m
  | .program h => Action.drive (programBinary h)
  | .kernel .. => Action.raise .kernelNotSaved

/-- Writes a file of the session. -/
def writeFile (path : String) (bytes : List UInt8) : Action Unit := do
  let s ← get
  match s.files.write path bytes with
  | .ok files => set { s with files }
  | .error e => Action.raise (.file e)

/-- The command `save OBJ FILE`. -/
def save : Reading Outcome := do
  let t ← current
  let e ← evaluateKept
  let (path, span) ← pathArgument
  warnTrailing .save
  let bytes ← Action.atSpan (fileBytes path e.object) t.span
  Action.atSpan (writeFile path bytes) span
  Action.note s!"{bytes.length} バイトを '{path}' に保存しました"
  return .good

end Statement

end DriverBench
