import DriverBench.Expression.File
import DriverBench.Simulator.Kernel
/-!
# Buffers and images of the device

A buffer is made with a size, or from data or a part of it. An image is made from an image of the
host, or from data with an extent and a format. Buffers, images and kernels can be cloned.

What was made on the device is given up again when a later step fails.
-/

namespace DriverBench

open Device Number Simulator

namespace Reading

/-! ## Buffers -/

/-- Reads the size of a buffer and makes one that holds zeros. -/
def sizedBuffer : Reading Object := do
  let t ← consume
  let size ← lift (t.located (IntegerType.size.readNatural t.text))
  closeArguments
  let m ← Action.atSpan (Action.drive (createBuffer size)) t.span
  return .memory m

/-- Reads which part of data is asked for, as its start and its length. -/
def dataPart (size : Nat) : Reading (Nat × Nat) := do
  if !(← skip .comma) then return (0, size)
  let (start, t) ← sizeArgument "開始位置"
  if size ≤ start then raise (.startBeyondData start size) t.span
  let available := size - start
  if !(← skip .comma) then return (start, available)
  let requested ← lengthArgument .size
  if available < requested then Action.note (cutNote "データ" requested available)
  return (start, min requested available)

/-- Makes a buffer that holds bytes. -/
def bufferOf (bytes : List UInt8) : Reading Memory := do
  let m ← Action.drive (createBuffer bytes.length)
  undoing m.handle do
    Action.drive (writeBuffer m 0 bytes)
    return m

/-- Keeps an object whose bytes are being written, unless the driver has waited for that. -/
def keepInFlight (e : Entity) : Reading Unit := do
  if !(← Action.activeDriver).blocking then
    change fun s => { s with inFlight := s.inFlight ++ [e] }

/-- Reads which part of an object's data is asked for and makes a buffer that holds it. -/
def filledBuffer (operand : Token) (source : Entity) : Reading Object := do
  match source.object.data? with
  | none => raise (.dataRequired "buffer") operand.span
  | some d => do
    let (start, length) ← dataPart d.bytes.length
    closeArguments
    let m ← bufferOf (slice d.bytes start length)
    keepInFlight source
    return .memory m

/-! ## Images -/

/-- Reads the order of channels. -/
def channelOrder : Reading ChannelOrder := do
  let t ← consume
  match ChannelOrder.ofName? t.text with
  | some order => return order
  | none => raise .unknownChannelOrder t.span

/-- Reads the type of channels, which may be abbreviated. -/
def channelType : Reading ChannelType := do
  let t ← consume
  match Text.choose t.text ChannelType.name ChannelType.all with
  | .one type => return type
  | .several => raise (.ambiguousChannelType t.text) t.span
  | .none => raise (.unknownChannelType t.text) t.span

/-- Reads the width of an image, which is not zero. -/
def widthArgument : Reading Nat := do
  let (width, t) ← sizeArgument "幅"
  if width = 0 then raise .widthZero t.span
  return width

/-- Reads extent and format of an image. -/
def imageForm : Reading (ImageFormat × ImageDesc) := do
  let width ← widthArgument
  comma
  let (height, _) ← sizeArgument "高さ"
  comma
  let order ← channelOrder
  comma
  let type ← channelType
  return (⟨order, type⟩, .ofSize width height)

/-- An image in the making: its format, its extent and its pixels. -/
abbrev Pixels := ImageFormat × ImageDesc × List UInt8

/-- Reads the form of an image that data is to fill. -/
def imageFromData (operand : Token) (source : Entity) : Reading Pixels := do
  match source.object.data? with
  | none => raise (.dataRequired "image") operand.span
  | some d => do
    let (format, desc) ← imageForm
    let size := desc.byteSize format
    if d.bytes.length < size then raise (.imageTooLarge size d.bytes.length) operand.span
    return (format, desc, d.bytes.take size)

/-- The form and the pixels of an image of the host. -/
def imageFromImage (operand : Token) (source : Entity) : Reading Pixels :=
  match source.object.image? with
  | some i => return (i.format, i.desc, i.data.bytes)
  | none => raise .imageRequired operand.span

/-- Reads how an object is to be an image and makes one on the device. -/
def filledImage (operand : Token) (source : Entity) : Reading Object := do
  let (format, desc, bytes) ←
    if ← skip .comma then imageFromData operand source else imageFromImage operand source
  closeArguments
  let m ← Action.drive (createImage format desc (some bytes))
  return .memory m

/-! ## Clones -/

/-- Makes memory of the same form and contents. -/
def copyMemory (m : Memory) : Reading Memory := do
  match m.image with
  | some (format, desc) => do
    let copy ← Action.drive (createImage format desc none)
    undoing copy.handle do
      Action.drive (copyImage m copy (0, 0, 0) (0, 0, 0) desc.region)
      return copy
  | none => do
    let copy ← Action.drive (createBuffer m.size)
    undoing copy.handle do
      Action.drive (copyBuffer m copy 0 0 m.size)
      return copy

/-- Closes the arguments of `clone` and makes the clone. -/
def clonedObject (operand : Token) (source : Entity) : Reading Object := do
  closeArguments
  match source.object with
  | .memory m => return .memory (← copyMemory m)
  | .kernel h _ => do
    let (copy, name) ← Action.drive (cloneKernel h)
    return .kernel copy name
  | _ => raise .notCloneable operand.span

end Reading

end DriverBench
