/-!
# Bits of compressed data

Compressed data is read as a list of bits, the lowest bit of each byte first. It may come in
parts, so that a number whose bits are not all there yet is no fault: reading waits for them.
-/

namespace DriverBench.Raster.Deflate

/-- The bits of bytes, in the order in which they are read. -/
def bitsOf (bytes : List UInt8) : List Bool :=
  bytes.flatMap fun b => (List.range 8).map fun i => b.toNat / Nat.pow 2 i % 2 == 1

/-- Why reading stops. -/
inductive Stop where
  /-- Nothing more can be taken from the bits that are there. -/
  | waiting
  | malformed
  deriving DecidableEq, Repr

/-- Takes a number of some bits, the lowest one first. -/
def takeBits : Nat → List Bool → Except Stop (Nat × List Bool)
  | 0, bits => .ok (0, bits)
  | _ + 1, [] => .error .waiting
  | n + 1, bit :: bits =>
    (takeBits n bits).map fun (value, rest) => (2 * value + bit.toNat, rest)

/-- Takes `count` numbers of three bits. -/
def takeTriples : Nat → List Bool → Except Stop (List Nat × List Bool)
  | 0, bits => .ok ([], bits)
  | count + 1, bits => do
    let (value, bits) ← takeBits 3 bits
    let (values, bits) ← takeTriples count bits
    return (value :: values, bits)

/-- A number that is given as what it adds, in some bits, to a base. -/
structure Base where
  value : Nat
  extra : Nat

/-- Takes a number off that is given relative to a base. -/
def Base.take (base : Base) (bits : List Bool) : Except Stop (Nat × List Bool) :=
  (takeBits base.extra bits).map fun (more, rest) => (base.value + more, rest)

/-- Leaves bits out; they must be there. -/
def skipBits (count : Nat) (bits : List Bool) : Except Stop (List Bool) :=
  (takeBits count bits).map Prod.snd

/-- Waits until there are `count` bits, and takes none of them. -/
def awaitBits (count : Nat) (bits : List Bool) : Except Stop Unit :=
  (takeBits count bits).map fun _ => ()

/-- The bits from the next full byte on; they end with a full byte. -/
def alignBits (bits : List Bool) : List Bool :=
  bits.drop (bits.length % 8)

/-- What must be there for data to be well formed. -/
def require {α : Type} : Option α → Except Stop α
  | some a => .ok a
  | none => .error .malformed

end DriverBench.Raster.Deflate
