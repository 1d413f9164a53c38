import DriverBench.Raster.Deflate.Bits
/-!
# Prefix codes

A canonical prefix code is given by the lengths of the codes of its symbols: shorter codes come
first, and codes of one length follow one another in the order of their symbols. A symbol is looked
up as if zeros followed the bits at hand, and taken once all bits of its code are there.
-/

namespace DriverBench.Raster.Deflate

/-- A canonical prefix code: the number of codes of each length from one on, and the symbols in
the order of their codes. -/
structure Code where
  counts : List Nat
  symbols : Array Nat

namespace Code

/-- The code whose symbols, in order, have the given lengths; length zero means no code. -/
def ofLengths (lengths : List Nat) : Code :=
  let numbered := lengths.zipIdx
  let symbolsOf (n : Nat) := (numbered.filter (·.1 == n)).map Prod.snd
  let groups := (List.range (lengths.foldl max 0)).map fun i => symbolsOf (i + 1)
  ⟨groups.map List.length, groups.flatten.toArray⟩

/-- The part of all bit sequences that the codes of a code begin, in units of a code of fifteen
bits, which is the longest one that there can be. -/
def coverage (c : Code) : Nat :=
  c.counts.zipIdx.foldl (fun total (count, i) => total + count * Nat.pow 2 (14 - i)) 0

/-- Whether every sequence of bits starts with exactly one code. -/
def isComplete (c : Code) : Bool :=
  c.coverage == 0x8000

/-- Looks a symbol up, with the length of its code. Of each length, `first` is the first code and
`index` the place of its symbol; `size` bits are looked at before. -/
def symbolFrom (symbols : Array Nat) (size code first index : Nat) : List Nat → List Bool →
    Option (Nat × Nat)
  | [], _ => none
  | count :: counts, bits =>
    let code := code + (bits.headD false).toNat
    if code < first + count then symbols[index + (code - first)]?.map (·, size + 1)
    else
      symbolFrom symbols (size + 1) (2 * code) (2 * (first + count)) (index + count) counts
        bits.tail

/-- The symbol whose code bits begin with, and the length of the code. Bits that are not there
count as zeros. -/
def symbolAt? (c : Code) (bits : List Bool) : Option (Nat × Nat) :=
  symbolFrom c.symbols 0 0 0 0 c.counts bits

/-- Takes a symbol off the front of bits. -/
def take (c : Code) (bits : List Bool) : Except Stop (Nat × List Bool) := do
  let (symbol, size) ← require (c.symbolAt? bits)
  return (symbol, ← skipBits size bits)

end Code

/-- The symbol that ends a block. -/
def endSymbol : Nat := 256

/-- The two codes of a block: one for literals, lengths and the end, and one for distances. -/
structure Codes where
  literals : Code
  distances : Code

namespace Codes

/-- The codes of blocks that carry none. -/
def standard : Codes :=
  ⟨.ofLengths (List.replicate 144 8 ++ List.replicate 112 9 ++ List.replicate 24 7 ++
    List.replicate 8 8), .ofLengths (List.replicate 32 5)⟩

/-- Whether codes may be used. That for literals is complete and can end a block; for distances, a
single code of one bit or none at all will do. -/
def areUsable (c : Codes) : Bool :=
  c.literals.isComplete && c.literals.symbols.contains endSymbol &&
    (c.distances.isComplete || c.distances.counts.isEmpty || c.distances.counts == [1])

/-- The bits that must be there before a code length is read; no code for one is longer. -/
def lengthCodeLimit : Nat := 7

/-- Reads the code lengths of a block, collected in reverse, until there are `wanted`. -/
def readLengths (code : Code) (wanted : Nat) : Nat → List Nat → List Bool →
    Except Stop (List Nat × List Bool)
  | 0, _, _ => .error .malformed
  | steps + 1, lengths, bits =>
    if lengths.length = wanted then .ok (lengths.reverse, bits)
    else if wanted < lengths.length then .error .malformed
    else do
      awaitBits lengthCodeLimit bits
      let (symbol, bits) ← code.take bits
      if symbol < 16 then readLengths code wanted steps (symbol :: lengths) bits
      else if symbol = 16 then
        let (n, bits) ← Base.take ⟨3, 2⟩ bits
        let last ← require lengths.head?
        readLengths code wanted steps (List.replicate n last ++ lengths) bits
      else
        let (n, bits) ← Base.take (if symbol = 17 then ⟨3, 3⟩ else ⟨11, 7⟩) bits
        readLengths code wanted steps (List.replicate n 0 ++ lengths) bits

/-- The order in which the lengths of the code for code lengths are given. -/
def lengthOrder : List Nat :=
  [16, 17, 18, 0, 8, 7, 9, 6, 10, 5, 11, 4, 12, 3, 13, 2, 14, 1, 15]

/-- Reads the codes of a block that carries its own. -/
def read (bits : List Bool) : Except Stop (Codes × List Bool) := do
  let (literalCount, bits) ← Base.take ⟨257, 5⟩ bits
  let (distanceCount, bits) ← Base.take ⟨1, 5⟩ bits
  let (lengthCount, bits) ← Base.take ⟨4, 4⟩ bits
  if 286 < literalCount ∨ 30 < distanceCount then .error .malformed
  let (triples, bits) ← takeTriples lengthCount bits
  let given := lengthOrder.zip triples
  let code := Code.ofLengths ((List.range 19).map fun i => (given.lookup i).getD 0)
  if !code.isComplete then .error .malformed
  let (lengths, bits) ←
    readLengths code (literalCount + distanceCount) (literalCount + distanceCount + 1) [] bits
  let codes : Codes :=
    ⟨.ofLengths (lengths.take literalCount), .ofLengths (lengths.drop literalCount)⟩
  if !codes.areUsable then .error .malformed
  return (codes, bits)

end Codes

end DriverBench.Raster.Deflate
