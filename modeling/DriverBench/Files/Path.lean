import DriverBench.Text.Utf8
/-!
# Paths

A path is a text whose parts are divided by slashes. Empty parts and single dots name nothing.
-/

namespace DriverBench.Files

/-- The parts of a path between its slashes, empty ones left out. -/
def parts (path : String) : List String :=
  (path.splitOn "/").filter (· ≠ "")

/-- Whether a path starts at the root. -/
def isAbsolute (path : String) : Bool :=
  path.toList.head? == some '/'

/-- Whether a path ends with a slash, and so must name a directory. -/
def asksForDirectory (path : String) : Bool :=
  path.toList.getLast? == some '/'

/-- The last part of a path that names something; two dots name no file. -/
def fileName? (path : String) : Option String :=
  match ((parts path).filter (· ≠ ".")).getLast? with
  | some ".." => none
  | last => last

/-- The extension of a file name: what follows its last dot, unless that dot comes first. -/
def extensionOf? (name : String) : Option String :=
  let reversed := name.toList.reverse
  let after := reversed.takeWhile (· ≠ '.')
  match reversed.drop after.length with
  | _dot :: _ :: _ => some (String.ofList after.reverse)
  | _ => none

/-- The extension of the file that a path names. -/
def extension? (path : String) : Option String :=
  (fileName? path).bind extensionOf?

/-- The end of a path, given in reverse, without slashes and single dots that name nothing. -/
def dropIdle : List Char → List Char
  | '/' :: rest => dropIdle rest
  | '.' :: '/' :: rest => dropIdle rest
  | cs => cs

/-- The path of the directory that holds what a path names. It is empty for a name alone, and also
for the root, where nothing has to be made either. -/
def parentPath (path : String) : String :=
  let named := dropIdle path.toList.reverse
  String.ofList (dropIdle (named.dropWhile (· ≠ '/'))).reverse

end DriverBench.Files
