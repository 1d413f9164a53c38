/-!
# Numbers as bytes

A device stores a number with its least significant byte first.
-/

namespace DriverBench.Number

/-- The lowest `count` bytes of a number, the least significant one first. -/
def littleEndian : Nat → Nat → List UInt8
  | 0, _ => []
  | count + 1, n => UInt8.ofNat n :: littleEndian count (n / 256)

/-- The number that bytes denote, the least significant one first. -/
def ofLittleEndian : List UInt8 → Nat
  | [] => 0
  | b :: rest => b.toNat + 256 * ofLittleEndian rest

@[simp] theorem length_littleEndian (count n : Nat) : (littleEndian count n).length = count := by
  induction count generalizing n with
  | zero => rfl
  | succ count ih => simp [littleEndian, ih]

/-- How many numbers a count of bytes can denote. -/
def byteValues (count : Nat) : Nat :=
  Nat.pow 256 count

/-- Reading back gives the number, less the bytes that were cut off. -/
theorem ofLittleEndian_littleEndian (count n : Nat) :
    ofLittleEndian (littleEndian count n) = n % byteValues count := by
  induction count generalizing n with
  | zero => simp [littleEndian, ofLittleEndian, byteValues, Nat.mod_one]
  | succ count ih =>
    have h : (UInt8.ofNat n).toNat = n % 256 := by simp
    have hp : byteValues (count + 1) = 256 * byteValues count := Nat.mul_comm _ _
    rw [littleEndian, ofLittleEndian, ih, h, hp, Nat.mod_mul]

/-- The pattern of `bits` bits that stands for an integer in two's complement. -/
def twosComplement (bits : Nat) (v : Int) : Nat :=
  (v % (Nat.pow 2 bits : Nat)).toNat

end DriverBench.Number
