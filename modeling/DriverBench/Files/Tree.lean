import DriverBench.Files.Error
import DriverBench.Files.Path
/-!
# The tree of files

A file tree holds files and directories under their places, a place being the list of names from
the root down. Paths are followed part by part from the root or the working directory; what a part
leads through must be a directory.
-/

namespace DriverBench.Files

/-- A place in the tree: names from the root down. -/
abbrev Place := List String

/-- What stands at a place. -/
inductive Node where
  | file (bytes : List UInt8)
  | directory
  deriving DecidableEq, Repr

/-- Files and directories by their places, in the order in which they were made. The root is
always a directory. -/
structure FileTree where
  nodes : List (Place × Node) := []
  workingDirectory : Place := []

namespace FileTree

/-- What stands at a place. -/
def at? (t : FileTree) (place : Place) : Option Node :=
  if place = [] then some .directory else t.nodes.lookup place

/-- Puts something at a place. -/
def put (t : FileTree) (place : Place) (node : Node) : FileTree :=
  if t.nodes.any (·.1 == place) then
    { t with nodes := t.nodes.map fun n => if n.1 == place then (place, node) else n }
  else { t with nodes := t.nodes ++ [(place, node)] }

/-- The places on the way from the root to a place, both included. -/
def way (place : Place) : List Place :=
  (List.range (place.length + 1)).map place.take

/-- Makes a directory and those that lead to it, where there are none. -/
def makeDirectories (t : FileTree) (place : Place) : FileTree :=
  (way place).foldl (fun t p => if (t.at? p).isNone then t.put p .directory else t) t

/-- A tree with an empty working directory. -/
def withWorkingDirectory (place : Place) : FileTree :=
  let t : FileTree := { workingDirectory := place }
  t.makeDirectories place

end FileTree

/-- Names of more bytes than this are refused. -/
def nameLimit : Nat := 255

/-- Paths of this many bytes or more are refused. -/
def pathLimit : Nat := 4096

/-- The size that a directory shows when it is opened like a file: that of a block. -/
def directorySize : Nat := 4096

/-- Why a path leads nowhere. -/
inductive PathFault where
  | missing
  | because (reason : Reason)
  deriving DecidableEq, Repr

/-- The failure that a path's fault amounts to. -/
def PathFault.error (path : String) : PathFault → FileError
  | .missing => .notFound path
  | .because reason => .failed path reason

namespace FileTree

/-- Follows parts from a directory. The last part need not exist; the others must lead through
directories. -/
def follow (t : FileTree) (here : Place) : List String → Except PathFault (Place × Option Node)
  | [] => .ok (here, t.at? here)
  | part :: rest => do
    match t.at? here with
    | none => .error .missing
    | some (.file _) => .error (.because .notDirectory)
    | some .directory =>
      if part = "." then t.follow here rest
      else if part = ".." then t.follow here.dropLast rest
      else if nameLimit < Text.byteLength part.toList then .error (.because .nameTooLong)
      else t.follow (here ++ [part]) rest

/-- Follows some of a path's parts from where it starts. -/
def resolveParts (t : FileTree) (path : String) (followed : List String) :
    Except PathFault (Place × Option Node) :=
  if path.toList.contains '\x00' then .error (.because .nulInName)
  else if pathLimit ≤ Text.byteLength path.toList then .error (.because .nameTooLong)
  else if path.isEmpty then .error .missing
  else t.follow (if isAbsolute path then [] else t.workingDirectory) followed

/-- The place to which a path leads, and what stands there. -/
def resolve (t : FileTree) (path : String) : Except PathFault (Place × Option Node) :=
  t.resolveParts path (parts path)

/-- The place of the directory that holds what a path names, and what stands there. The last part of
the path is not looked at. -/
def resolveHolder (t : FileTree) (path : String) : Except PathFault (Place × Option Node) :=
  t.resolveParts path (parts path).dropLast

/-- What a path names, for reading. -/
def opened (t : FileTree) (path : String) : Except FileError Node :=
  match t.resolve path with
  | .error fault => .error (fault.error path)
  | .ok (_, none) => .error (.notFound path)
  | .ok (_, some (.file bytes)) =>
    if asksForDirectory path then .error (.failed path .notDirectory) else .ok (.file bytes)
  | .ok (_, some .directory) => .ok .directory

/-- The bytes of a file from an offset on, at most so many as asked for. A directory opens like a
file of the size of a block, and fails when it is read. -/
def load (t : FileTree) (path : String) (offset : Nat) (length : Option Nat) :
    Except FileError (List UInt8) := do
  match ← t.opened path with
  | .directory =>
    if directorySize ≤ offset then .error (.offsetBeyondEnd offset directorySize)
    else .error (.failed path .isDirectory)
  | .file bytes =>
    if bytes.isEmpty then .error (.empty path)
    else if bytes.length ≤ offset then .error (.offsetBeyondEnd offset bytes.length)
    else
      let rest := bytes.drop offset
      .ok (match length with
        | some n => rest.take n
        | none => rest)

/-- The text of a file. -/
def readText (t : FileTree) (path : String) : Except FileError String := do
  match ← t.opened path with
  | .directory => .error (.failed path .isDirectory)
  | .file bytes =>
    match Text.decode? bytes with
    | some cs => .ok (String.ofList cs)
    | none => .error (.failed path .notText)

/-- Why nothing is written to a path that asks for a directory: whatever its last part is, no file
has such a path, unless what should hold it is no directory. -/
def writeFault (t : FileTree) (path : String) : FileError :=
  match t.resolveHolder path with
  | .error fault => fault.error path
  | .ok (_, none) => .notFound path
  | .ok (_, some (.file _)) => .failed path .notDirectory
  | .ok (_, some .directory) => .failed path .isDirectory

/-- Writes a whole file, new or in place of an old one. -/
def write (t : FileTree) (path : String) (bytes : List UInt8) : Except FileError FileTree :=
  if asksForDirectory path then .error (t.writeFault path)
  else
    match t.resolve path with
    | .error fault => .error (fault.error path)
    | .ok (_, some .directory) => .error (.failed path .isDirectory)
    | .ok (place, _) => .ok (t.put place (.file bytes))

/-- Makes the directories that parts name from a directory on, where there are none. There is no
result when a file is in the way or a name is too long. -/
def makeAlong (t : FileTree) (here : Place) : List String → Option FileTree
  | [] => some t
  | part :: rest =>
    if part = "." then t.makeAlong here rest
    else if part = ".." then t.makeAlong here.dropLast rest
    else if nameLimit < Text.byteLength part.toList then none
    else
      match t.at? (here ++ [part]) with
      | some (.file _) => none
      | some .directory => t.makeAlong (here ++ [part]) rest
      | none => (t.put (here ++ [part]) .directory).makeAlong (here ++ [part]) rest

/-- Makes the directory that holds what a path names, and those that lead to it. -/
def makeParent (t : FileTree) (path : String) : Option FileTree :=
  let parent := parentPath path
  if parent.toList.contains '\x00' then none
  else if pathLimit ≤ Text.byteLength parent.toList then none
  else t.makeAlong (if isAbsolute path then [] else t.workingDirectory) (parts parent)

/-- The files below the working directory, each with its path from there. -/
def listing (t : FileTree) : List (String × List UInt8) :=
  t.nodes.filterMap fun (place, node) =>
    match node with
    | .directory => none
    | .file bytes =>
      if t.workingDirectory.isPrefixOf place then
        some ("/".intercalate (place.drop t.workingDirectory.length), bytes)
      else none

end FileTree

end DriverBench.Files
