import DriverBench.Device.Image
/-!
# Objects

What an expression denotes: bytes of the host, perhaps with the form of an image, or something
that a device holds and that is reached by a handle.
-/

namespace DriverBench.Device

/-- What a handle names. -/
inductive HandleKind where
  | buffer | image | program | kernel
  deriving DecidableEq, Repr

/-- A name for something that a device holds. The issuer, if there is one, is the number of the
driver that gave the handle out and that forgets the thing when the handle is dropped; a handle
without an issuer is borrowed, and dropping it has no effect. -/
structure Handle where
  id : Nat
  kind : HandleKind
  issuer : Option Nat
  deriving DecidableEq, Repr

/-- Bytes of the host, with a label that says where they come from. -/
structure Data where
  bytes : List UInt8
  label : String
  deriving DecidableEq, Repr

/-- Bytes of the host that form an image. -/
structure Image where
  data : Data
  format : ImageFormat
  desc : ImageDesc
  deriving DecidableEq, Repr

/-- A buffer or an image on a device, with its size in bytes. -/
structure Memory where
  handle : Handle
  size : Nat
  image : Option (ImageFormat × ImageDesc)
  deriving DecidableEq, Repr

namespace Memory

/-- A buffer. -/
def ofBuffer (handle : Handle) (size : Nat) : Memory :=
  ⟨handle, size, none⟩

/-- An image, whose size follows from its format and extent. -/
def ofImage (handle : Handle) (format : ImageFormat) (desc : ImageDesc) : Memory :=
  ⟨handle, desc.byteSize format, some (format, desc)⟩

/-- The width of an image; a buffer has none. -/
def width (m : Memory) : Nat :=
  match m.image with
  | some (_, desc) => desc.width
  | none => 0

/-- Whether memory shows as an image: it has a width. -/
def isImage (m : Memory) : Bool :=
  m.width != 0

end Memory

/-- What an expression denotes. -/
inductive Object where
  | data (d : Data)
  | image (i : Image)
  | memory (m : Memory)
  | program (h : Handle)
  | kernel (h : Handle) (name : String)
  deriving DecidableEq, Repr

namespace Object

/-- The host bytes of an object, an image's included. -/
def data? : Object → Option Data
  | .data d => some d
  | .image i => some i.data
  | _ => none

/-- The object as a host image. -/
def image? : Object → Option Image
  | .image i => some i
  | _ => none

/-- The object as device memory. -/
def memory? : Object → Option Memory
  | .memory m => some m
  | _ => none

/-- The object as a program. -/
def program? : Object → Option Handle
  | .program h => some h
  | _ => none

/-- The object as a kernel. -/
def kernel? : Object → Option (Handle × String)
  | .kernel h name => some (h, name)
  | _ => none

/-- The handle of an object that a device holds. -/
def handle? : Object → Option Handle
  | .memory m => some m.handle
  | .program h => some h
  | .kernel h _ => some h
  | _ => none

/-- Whether a change of driver takes the object's meaning away. -/
def isDriverOwned (o : Object) : Bool :=
  o.handle?.isSome

/-- How an object is called in listings. -/
def typeTag : Object → String
  | .data d => d.label
  | .image i => i.data.label ++ " (" ++ i.format.text ++ ")"
  | .memory m => if m.isImage then "Image" else "Buffer"
  | .program _ => "Program"
  | .kernel _ name => "Kernel(" ++ name ++ ")"

end Object

end DriverBench.Device
