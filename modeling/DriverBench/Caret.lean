import DriverBench.Token.Basic
/-!
# Pointing at a part of a line

Under a line with a failure, carets mark the part that is meant. Tabs in front of it stay tabs, so
that the carets stand where the part stands on a terminal.
-/

namespace DriverBench

/-- Lines of this many bytes or more are not pointed at. -/
def caretLimit : Nat := 120

namespace Text

/-- Divides a text behind its first `n` bytes, if that is between two characters. -/
def splitAtByte? : Nat → List Char → Option (List Char × List Char)
  | 0, cs => some ([], cs)
  | _ + 1, [] => none
  | n + 1, c :: cs =>
    if c.utf8Size ≤ n + 1 then
      (splitAtByte? (n + 1 - c.utf8Size) cs).map fun (a, b) => (c :: a, b)
    else none
termination_by _ cs => cs.length

end Text

/-- What stands in front of a part: tabs as they are, spaces for all else. -/
def caretPad (before : List Char) : List Char :=
  before.map fun c => if c = '\t' then '\t' else ' '

/-- The line of carets under a part of a line. There is none when the line is long, or when the
part ends outside it or inside a character. A part without characters gets one caret. -/
def caretLine (line : String) (span : Span) : Option String :=
  let cs := line.toList
  if caretLimit ≤ Text.byteLength cs ∨ Text.byteLength cs < span.stop then none
  else do
    let (before, rest) ← Text.splitAtByte? span.start cs
    let (marked, _) ← Text.splitAtByte? (span.stop - span.start) rest
    return String.ofList (caretPad before ++ List.replicate (max marked.length 1) '^')

end DriverBench
