import DriverBench.Files.Tree
import DriverBench.Text.Blank
import DriverBench.Text.Lines
/-!
# The history of entered lines

The history holds the latest lines that were entered, without the white space around them. Blank
lines, and lines equal to the one before, are left out.

It is kept in a file: a first line that tells the format, then a line for each entry. In an entry a
backslash is written twice, and a line feed as a backslash and an `n`; so each entry is one line
(`History.plain_encode`).
-/

namespace DriverBench

open Files

/-- The lines that were entered, oldest first. -/
structure History where
  entries : List String := []
  /-- How many entries were added since the history was loaded or saved. -/
  fresh : Nat := 0
  deriving DecidableEq, Repr

namespace History

/-- The number of entries that are kept. -/
def limit : Nat := 100

/-- The first line of a history file. -/
def magic : String := "#V2"

/-- Adds an entry as it stands, unless it is empty or the same as the latest one. -/
def push (h : History) (entry : String) : History :=
  if entry.isEmpty ∨ h.entries.getLast? = some entry then h
  else
    let entries := h.entries ++ [entry]
    let kept := entries.drop (entries.length - limit)
    ⟨kept, min (h.fresh + 1) kept.length⟩

/-- Adds a line that was entered. -/
def add (h : History) (line : String) : History :=
  h.push (Text.trimWhiteSpace line)

/-! ## The file -/

/-- An entry as it is written. -/
def encode : List Char → List Char
  | [] => []
  | c :: rest =>
    if c = '\\' then '\\' :: '\\' :: encode rest
    else if c = '\n' then '\\' :: 'n' :: encode rest
    else c :: encode rest

/-- The entry that was written, unless a backslash stands before something else than a backslash
or an `n`. -/
def decode? : List Char → Option (List Char)
  | [] => some []
  | '\\' :: '\\' :: rest => (decode? rest).map ('\\' :: ·)
  | '\\' :: 'n' :: rest => (decode? rest).map ('\n' :: ·)
  | c :: rest => if c = '\\' then none else (decode? rest).map (c :: ·)

theorem decode?_encode (cs : List Char) : decode? (encode cs) = some cs := by
  induction cs with
  | nil => rfl
  | cons c rest ih =>
    by_cases h : c = '\\'
    · simp [encode, decode?, h, ih]
    · by_cases hn : c = '\n'
      · simp [encode, decode?, hn, ih]
      · simp [encode, decode?, h, hn, ih]

/-- A written entry has no line feed. -/
theorem plain_encode (cs : List Char) : '\n' ∉ encode cs := by
  induction cs with
  | nil => simp [encode]
  | cons c rest ih =>
    by_cases h : c = '\\'
    · simp [encode, h, ih]
    · by_cases hn : c = '\n'
      · simp [encode, hn, ih]
      · simp [encode, h, hn, ih, Ne.symm hn]

/-- The text of a history file. -/
def render (h : History) : String :=
  String.join ((magic :: h.entries.map fun e => String.ofList (encode e.toList)).map (· ++ "\n"))

/-- The entry on a line of a history file. What cannot be decoded is taken as it stands. -/
def entryOf (line : List Char) : String :=
  String.ofList ((decode? line).getD line)

/-- The history that a file holds. A file that does not tell its format has entries as they
stand. -/
def ofText (text : String) : History :=
  let entries := match Text.lines text.toList with
    | [] => []
    | first :: rest =>
      if String.ofList first = magic then rest.map entryOf
      else (first :: rest).map String.ofList
  { entries.foldl push {} with fresh := 0 }

/-- The history in a file. One that cannot be read counts as empty. -/
def load (files : FileTree) (path : String) : History :=
  match files.readText path with
  | .ok text => ofText text
  | .error _ => {}

/-- Saves a history to a file, whose directory is made if there is none. Nothing is written when
there is nothing new. There is no result when the file cannot be written. -/
def save? (h : History) (files : FileTree) (path : String) : Option (History × FileTree) := do
  let files ← files.makeParent path
  if h.entries.isEmpty ∨ h.fresh = 0 then return (h, files)
  match files.write path (Text.bytesOf h.render) with
  | .ok files => return ({ h with fresh := 0 }, files)
  | .error _ => none

end History

end DriverBench
