import DriverBench.Raster.Deflate.Code
/-!
# Items of compressed blocks

A compressed block is a sequence of literals and of copies of earlier bytes, up to its end. An item
is taken off as a whole or not at all. Two literals with short codes make up one item. What an item
stands for is appended to the bytes before it as far as there is room.
-/

namespace DriverBench.Raster.Deflate

/-- What stands for some of the bytes. -/
inductive Item where
  | literals (bytes : List UInt8)
  | copy (length distance : Nat)
  deriving DecidableEq, Repr

/-- The number of bytes that an item stands for. -/
def Item.length : Item → Nat
  | .literals bytes => bytes.length
  | .copy length _ => length

/-- The base of a length symbol. -/
def lengthBase? (symbol : Nat) : Option Base :=
  if symbol ≤ endSymbol then none
  else
    [⟨3, 0⟩, ⟨4, 0⟩, ⟨5, 0⟩, ⟨6, 0⟩, ⟨7, 0⟩, ⟨8, 0⟩, ⟨9, 0⟩, ⟨10, 0⟩, ⟨11, 1⟩, ⟨13, 1⟩, ⟨15, 1⟩,
      ⟨17, 1⟩, ⟨19, 2⟩, ⟨23, 2⟩, ⟨27, 2⟩, ⟨31, 2⟩, ⟨35, 3⟩, ⟨43, 3⟩, ⟨51, 3⟩, ⟨59, 3⟩, ⟨67, 4⟩,
      ⟨83, 4⟩, ⟨99, 4⟩, ⟨115, 4⟩, ⟨131, 5⟩, ⟨163, 5⟩, ⟨195, 5⟩, ⟨227, 5⟩, ⟨258, 0⟩][symbol - 257]?

/-- The base of a distance symbol. -/
def distanceBase? (symbol : Nat) : Option Base :=
  if symbol < 4 then some ⟨symbol + 1, 0⟩
  else if symbol < 30 then
    let extra := symbol / 2 - 1
    some ⟨(2 + symbol % 2) * Nat.pow 2 extra + 1, extra⟩
  else none

/-- The most bits of two literals that make up one item. -/
def pairLimit : Nat := 12

/-- The literals of the item that bits begin with, and the bits that they take. A second literal
belongs to the item if its code has two bits at least and both codes are short together. -/
def Code.literalsAt? (c : Code) (bits : List Bool) : Option (List UInt8 × Nat) := do
  let (first, size) ← c.symbolAt? bits
  if endSymbol ≤ first then none
  match c.symbolAt? (bits.drop size) with
  | some (second, more) =>
    if second < endSymbol ∧ 2 ≤ more ∧ size + more ≤ pairLimit then
      return ([first.toUInt8, second.toUInt8], size + more)
    return ([first.toUInt8], size)
  | none => return ([first.toUInt8], size)

/-- A fault counts once there are `count` bits; before, it is one to wait with. -/
def faultFrom {α : Type} (count : Nat) (bits : List Bool) : Except Stop α → Except Stop α
  | .error .malformed => do
    awaitBits count bits
    .error .malformed
  | reading => reading

/-- The bits that must be there before a distance symbol is known to be none. -/
def distanceFaultSize : Nat := 10

/-- Takes a distance off the front of bits. -/
def Code.takeDistance (c : Code) (bits : List Bool) : Except Stop (Nat × List Bool) :=
  faultFrom distanceFaultSize bits do
    let (symbol, rest) ← c.take bits
    (← require (distanceBase? symbol)).take rest

/-- Takes an item off the front of bits; there is none at the end of the block. The symbols above
the lengths end a block, too. -/
def Codes.takeItem (c : Codes) (bits : List Bool) : Except Stop (Option Item × List Bool) := do
  match c.literals.literalsAt? bits with
  | some (bytes, size) => return (some (.literals bytes), ← skipBits size bits)
  | none =>
    let (symbol, rest) ← c.literals.take bits
    match lengthBase? symbol with
    | none => return (none, rest)
    | some base =>
      let (length, rest) ← base.take rest
      let (distance, rest) ← c.distances.takeDistance rest
      return (some (.copy length distance), rest)

/-- The bits of the longest code that there can be. -/
def codeLimit : Nat := 15

/-- Takes the end of a block off the front of bits, and nothing else. It is looked for once any code
would be there as a whole. -/
def Codes.takeEnd (c : Codes) (bits : List Bool) : Except Stop (List Bool) := do
  awaitBits codeLimit bits
  let (symbol, rest) ← c.literals.take bits
  if symbol ≠ endSymbol then .error .waiting
  return rest

/-- Appends `count` bytes from `distance` bytes back, byte by byte. -/
def copyBack (distance : Nat) : Nat → Array UInt8 → Option (Array UInt8)
  | 0, out => some out
  | count + 1, out =>
    if distance ≤ out.size then do
      let b ← out[out.size - distance]?
      copyBack distance count (out.push b)
    else none

/-- Appends what an item stands for, up to `room` bytes. A copy must not start before the first
byte. -/
def Item.appendTo (out : Array UInt8) (room : Nat) : Item → Option (Array UInt8)
  | .literals bytes => some (out ++ (bytes.take room).toArray)
  | .copy length distance => copyBack distance (min length room) out

end DriverBench.Raster.Deflate
