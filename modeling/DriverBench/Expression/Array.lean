import DriverBench.Session.Reading
import DriverBench.Number.Element
/-!
# Arrays of constants

`int(1, 2, 3)` denotes the bytes of its elements, one after the other.
-/

namespace DriverBench

open Device Number

namespace Reading

/-- Reads one element behind those that were read, and what follows it: a comma, or the closing
parenthesis. -/
def arrayElement (type : ElementType) (bytes : List UInt8) : Reading (Step (List UInt8)) := do
  let t ← constantToken "配列の要素"
  let bytes := bytes ++ (← lift (t.located (type.bytesOf t.text)))
  if ← skip .comma then return .next bytes
  if ← skip .closeParen then return .done bytes
  raise .commaOrCloseRequired (← here)

/-- Reads the elements of an array and the closing parenthesis. -/
def arrayObject (type : ElementType) : Reading Object := do
  let bytes ← loop (arrayElement type) []
  return .data ⟨bytes, type.label⟩

end Reading

end DriverBench
