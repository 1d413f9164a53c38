import DriverBench.Session.Reading
/-!
# Files as objects

`file(NAME)` denotes the contents of a file, or the image in it if it is a picture file. With a
start, and perhaps a length, it denotes bytes in any case.
-/

namespace DriverBench

open Device Files Number

/-- The part of a file that is asked for, with the places where that is said. -/
structure FilePart where
  start : Option (Nat × Token) := none
  length : Option Nat := none

/-- The note about a length that goes beyond the end of what it is taken from. -/
def cutNote (source : String) (requested available : Nat) : String :=
  s!"長さ {requested} を{source}末尾に合わせて {available} に切り詰めました"

/-- The place of a failure to load a file: that of the start if it lies too far, else that of the
name. -/
def loadFailureSpan (name : Token) (part : FilePart) (e : FileError) : Span :=
  match e, part.start with
  | .offsetBeyondEnd .., some (_, t) => t.span
  | _, _ => name.span

namespace Reading

/-- Reads the name of a file. -/
def fileName : Reading (String × Token) := do
  let t ← consume
  match t.kind with
  | .quoted | .word | .constant =>
    let name ← lift t.wordOrText
    return (name, t)
  | _ => raise .fileNameRequired t.span

/-- Reads a length, which is not zero. -/
def lengthArgument (type : IntegerType) : Reading Nat := do
  let (n, t) ← numberArgument type "長さ"
  if n = 0 then raise .lengthZero t.span
  return n

/-- Reads which part of a file is asked for. -/
def filePart : Reading FilePart := do
  if !(← skip .comma) then return {}
  let start ← numberArgument .ulong "開始位置"
  if !(← skip .comma) then return { start := some start }
  let length ← lengthArgument .ulong
  return { start := some start, length := some length }

/-- The bytes of a part of a file. -/
def loadPart (name : String) (nameToken : Token) (part : FilePart) : Reading (List UInt8) := do
  let start := (part.start.map Prod.fst).getD 0
  match (← session).files.load name start part.length with
  | .ok bytes => return bytes
  | .error e => raise (.file e) (loadFailureSpan nameToken part e)

/-- Notes that fewer bytes were there than were asked for. -/
def noteCutFile (part : FilePart) (available : Nat) : Reading Unit := do
  match part.length with
  | some requested =>
    if available < requested then Action.note (cutNote "ファイル" requested available)
  | none => return

/-- The object that a whole file holds. -/
def wholeFile (name : String) (nameToken : Token) (bytes : List UInt8) : Reading Object := do
  match (← session).codec.decode name bytes with
  | .ok (some image) => return .image image
  | .ok none => return .data ⟨bytes, name⟩
  | .error e => raise (.codec e) nameToken.span

/-- Reads the arguments of `file` and gives the contents. -/
def fileObject : Reading Object := do
  let (name, nameToken) ← fileName
  let part ← filePart
  closeArguments
  let bytes ← loadPart name nameToken part
  noteCutFile part bytes.length
  if part.start.isSome then return .data ⟨bytes, name⟩
  wholeFile name nameToken bytes

end Reading

end DriverBench
