/-!
# The lines of a text

A line ends at a line feed, and a carriage return right before the feed belongs to the ending.
A text that ends with a line feed has no further, empty line.
-/

namespace DriverBench.Text

/-- Cuts at each line feed; the last part is what follows the last feed, and may be empty. -/
def splitFeeds : List Char → List (List Char)
  | [] => [[]]
  | c :: rest =>
    if c = '\n' then [] :: splitFeeds rest
    else
      match splitFeeds rest with
      | [] => [[c]]
      | line :: more => (c :: line) :: more

theorem splitFeeds_ne_nil (cs : List Char) : splitFeeds cs ≠ [] := by
  cases cs with
  | nil => simp [splitFeeds]
  | cons c rest =>
    unfold splitFeeds
    split
    · simp
    · split <;> simp

/-- A line without the carriage return that ended it. -/
def dropReturn (line : List Char) : List Char :=
  if line.getLast? = some '\r' then line.dropLast else line

/-- The lines of the parts of a text, of which all but the last were ended by a line feed. -/
def endedLines : List (List Char) → List (List Char)
  | [] => []
  | [last] => if last.isEmpty then [] else [last]
  | line :: more => dropReturn line :: endedLines more

/-- The lines of a text. -/
def lines (cs : List Char) : List (List Char) :=
  endedLines (splitFeeds cs)

end DriverBench.Text
