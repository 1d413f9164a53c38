import DriverBench.Number.Binary
import Mathlib.Algebra.Order.Field.Basic
import Mathlib.Algebra.Order.Field.Power
import Mathlib.Data.Rat.Cast.Order
import Mathlib.Tactic.FieldSimp
import Mathlib.Tactic.Linarith
import Mathlib.Tactic.NormNum
import Mathlib.Tactic.Positivity
import Mathlib.Tactic.Ring
/-!
# What patterns denote

A pattern of a binary format denotes what its three fields say: an exact rational with a sign, an
infinity or no number at all (`BinaryFormat.datum`). The magnitude of a pattern, which is an
integer, is in the order of what the pattern denotes, the sign apart; so comparing what two patterns
denote is comparing integers (`BinaryFormat.atMost_datum_iff`), and a finite magnitude can be told
from its value.
-/

namespace DriverBench.Number

/-- What a pattern denotes. Zero has two signs. -/
inductive Datum
  | finite (negative : Bool) (value : ℚ)
  | infinite (negative : Bool)
  | notANumber
  deriving DecidableEq

namespace Datum

/-- What is not negative, with a sign. -/
def signed {α : Type} [Neg α] (negative : Bool) (a : α) : α :=
  if negative then -a else a

/-- The order of numbers, with the infinities at its ends. The zeros are equal in it, and what is no
number stands in it nowhere. -/
def AtMost : Datum → Datum → Prop
  | .notANumber, _ => False
  | _, .notANumber => False
  | .infinite true, _ => True
  | _, .infinite false => True
  | .finite m v, .finite n w => signed m v ≤ signed n w
  | _, _ => False

/-- Only numbers stand in the order. -/
theorem AtMost.ne_notANumber {d e : Datum} (h : d.AtMost e) :
    d ≠ .notANumber ∧ e ≠ .notANumber := by
  constructor
  · rintro rfl
    cases e <;> exact h
  · rintro rfl
    cases d <;> exact h

end Datum

namespace BinaryFormat

variable {f : BinaryFormat} {m n pattern p q : Nat} {negative : Bool}

/-! ## Fields -/

/-- The exponent as it is stored. -/
def exponentField (f : BinaryFormat) (pattern : Nat) : Nat :=
  pattern / 2 ^ f.fractionBits % 2 ^ f.exponentBits

def fractionField (f : BinaryFormat) (pattern : Nat) : Nat :=
  pattern % 2 ^ f.fractionBits

def isNegative (f : BinaryFormat) (pattern : Nat) : Bool :=
  pattern / f.signBit % 2 == 1

/-- A pattern without its sign. -/
def magnitude (f : BinaryFormat) (pattern : Nat) : Nat :=
  pattern % f.signBit

/-- A number with a leading one in front of its fraction. -/
def IsNormal (f : BinaryFormat) (pattern : Nat) : Prop :=
  0 < f.exponentField pattern ∧ f.exponentField pattern < 2 ^ f.exponentBits - 1

/-- A number other than zero without a leading one. -/
def IsSubnormal (f : BinaryFormat) (pattern : Nat) : Prop :=
  f.exponentField pattern = 0 ∧ f.fractionField pattern ≠ 0

/-- The value of a number from its exponent as it is stored and its fraction: a leading one stands
in front of the fraction unless the exponent is zero. -/
def valueOf (f : BinaryFormat) (exponent fraction : Nat) : ℚ :=
  if exponent = 0 then fraction / 2 ^ f.fractionBits * 2 ^ (1 - f.bias : ℤ)
  else (1 + fraction / 2 ^ f.fractionBits) * 2 ^ (exponent - f.bias : ℤ)

/-- **What a pattern denotes.** The greatest exponent is that of infinities and of what is no
number. -/
def datum (f : BinaryFormat) (pattern : Nat) : Datum :=
  let exponent := f.exponentField pattern
  let fraction := f.fractionField pattern
  if exponent = 2 ^ f.exponentBits - 1 then
    if fraction = 0 then .infinite (f.isNegative pattern) else .notANumber
  else .finite (f.isNegative pattern) (f.valueOf exponent fraction)

theorem signBit_eq (f : BinaryFormat) :
    f.signBit = 2 ^ f.fractionBits * 2 ^ f.exponentBits :=
  pow_add 2 f.fractionBits f.exponentBits

theorem magnitude_lt (f : BinaryFormat) (pattern : Nat) : f.magnitude pattern < f.signBit :=
  Nat.mod_lt _ (by rw [signBit_eq]; positivity)

theorem exponentField_eq (f : BinaryFormat) (pattern : Nat) :
    f.exponentField pattern = f.magnitude pattern / 2 ^ f.fractionBits := by
  rw [magnitude, signBit_eq, Nat.mod_mul_right_div_self, exponentField]

theorem fractionField_eq (f : BinaryFormat) (pattern : Nat) :
    f.fractionField pattern = f.magnitude pattern % 2 ^ f.fractionBits := by
  rw [magnitude, signBit_eq, Nat.mod_mul_right_mod, fractionField]

theorem infinity_eq (f : BinaryFormat) :
    f.infinity = (2 ^ f.exponentBits - 1) * 2 ^ f.fractionBits :=
  rfl

theorem infinity_lt_signBit (f : BinaryFormat) : f.infinity < f.signBit := by
  have hpow : 0 < 2 ^ f.exponentBits := by positivity
  rw [signBit_eq, infinity_eq, Nat.mul_comm]
  exact Nat.mul_lt_mul_of_pos_left (Nat.sub_lt hpow Nat.one_pos) (by positivity)

/-- The sign and the magnitude of a pattern are those that it is made of. -/
theorem isNegative_withSign (hm : m < f.signBit) :
    f.isNegative (f.withSign negative m) = negative := by
  cases negative with
  | false => simp [withSign, isNegative, Nat.div_eq_of_lt hm]
  | true =>
    have hpos : 0 < f.signBit := by omega
    simp [withSign, isNegative, Nat.add_div_left m hpos, Nat.div_eq_of_lt hm]

theorem magnitude_withSign (hm : m < f.signBit) : f.magnitude (f.withSign negative m) = m := by
  cases negative <;> simp [withSign, magnitude, Nat.mod_eq_of_lt hm]

theorem withSign_lt (hm : m < f.signBit) : f.withSign negative m < 2 * f.signBit := by
  unfold withSign
  split <;> omega

/-! ## Values -/

/-- The value of a magnitude. -/
def value (f : BinaryFormat) (m : Nat) : ℚ :=
  f.valueOf (m / 2 ^ f.fractionBits) (m % 2 ^ f.fractionBits)

theorem units_eq (f : BinaryFormat) (m : Nat) : f.units m =
    if m / 2 ^ f.fractionBits = 0 then m % 2 ^ f.fractionBits
    else (2 ^ f.fractionBits + m % 2 ^ f.fractionBits) * 2 ^ (m / 2 ^ f.fractionBits - 1) :=
  rfl

/-- All values are multiples of the least one. -/
theorem value_eq_units (f : BinaryFormat) (m : Nat) :
    f.value m = f.units m * 2 ^ f.leastExponent := by
  have hleast : (2 : ℚ) ^ f.leastExponent = 2 ^ (1 - f.bias : ℤ) / 2 ^ f.fractionBits := by
    rw [leastExponent, zpow_sub₀ two_ne_zero, zpow_natCast]
  rw [hleast, value, valueOf, units_eq]
  generalize m / 2 ^ f.fractionBits = exponent
  generalize m % 2 ^ f.fractionBits = fraction
  split
  · ring
  · next hzero =>
    have hshift : (exponent - f.bias : ℤ) = (exponent - 1 : Nat) + (1 - f.bias) := by omega
    rw [hshift, zpow_add₀ two_ne_zero, zpow_natCast]
    push_cast
    field_simp

/-- One more is a greater number: the fraction grows, or a full one carries into the exponent. -/
theorem units_lt_succ (f : BinaryFormat) (m : Nat) : f.units m < f.units (m + 1) := by
  have hpos : 0 < 2 ^ f.fractionBits := by positivity
  have hparts := Nat.div_add_mod m (2 ^ f.fractionBits)
  have hmod := Nat.mod_lt m hpos
  rw [units_eq, units_eq]
  generalize 2 ^ f.fractionBits = width at *
  generalize m / width = exponent at *
  generalize m % width = fraction at *
  subst hparts
  rcases Nat.lt_or_ge (fraction + 1) width with hless | hfull
  · rw [Nat.add_assoc, Nat.mul_add_div hpos, Nat.mul_add_mod, Nat.div_eq_of_lt hless,
      Nat.mod_eq_of_lt hless, Nat.add_zero]
    split
    · exact Nat.lt_succ_self _
    · exact Nat.mul_lt_mul_of_pos_right (by omega) (by positivity)
  · have hwidth : fraction + 1 = width := by omega
    rw [Nat.add_assoc, hwidth, Nat.mul_add_div hpos, Nat.mul_add_mod, Nat.div_self hpos,
      Nat.mod_self, Nat.add_zero, if_neg (Nat.succ_ne_zero _), Nat.add_sub_cancel]
    cases exponent with
    | zero => simp [hmod]
    | succ e =>
      rw [if_neg (Nat.succ_ne_zero e), Nat.add_sub_cancel, pow_succ, Nat.mul_comm (2 ^ e),
        ← Nat.mul_assoc]
      exact Nat.mul_lt_mul_of_pos_right (by omega) (by positivity)

/-- **Magnitudes are in the order of their values.** -/
theorem value_strictMono (f : BinaryFormat) : StrictMono f.value := by
  have hunits : StrictMono f.units := strictMono_nat_of_lt_succ f.units_lt_succ
  intro m n hmn
  rw [value_eq_units, value_eq_units]
  have hcast : (f.units m : ℚ) < f.units n := by exact_mod_cast hunits hmn
  exact mul_lt_mul_of_pos_right hcast (by positivity)

theorem value_zero (f : BinaryFormat) : f.value 0 = 0 := by
  simp [value, valueOf]

theorem value_nonneg (f : BinaryFormat) (m : Nat) : 0 ≤ f.value m := by
  rw [← f.value_zero]
  exact f.value_strictMono.monotone (Nat.zero_le m)

/-! ## What magnitudes denote -/

theorem datum_of_lt (h : f.magnitude pattern < f.infinity) :
    f.datum pattern = .finite (f.isNegative pattern) (f.value (f.magnitude pattern)) := by
  have hexponent : f.exponentField pattern ≠ 2 ^ f.exponentBits - 1 := by
    rw [exponentField_eq]
    exact (Nat.div_lt_of_lt_mul (by rwa [Nat.mul_comm, ← infinity_eq])).ne
  rw [datum, if_neg hexponent, exponentField_eq, fractionField_eq, value]

theorem datum_of_eq (h : f.magnitude pattern = f.infinity) :
    f.datum pattern = .infinite (f.isNegative pattern) := by
  have hexponent : f.exponentField pattern = 2 ^ f.exponentBits - 1 := by
    rw [exponentField_eq, h]
    exact Nat.mul_div_cancel _ (Nat.two_pow_pos _)
  have hfraction : f.fractionField pattern = 0 := by
    rw [fractionField_eq, h]
    exact Nat.mul_mod_left _ _
  rw [datum, if_pos hexponent, if_pos hfraction]

theorem datum_of_gt (h : f.infinity < f.magnitude pattern) : f.datum pattern = .notANumber := by
  have hlow : 2 ^ f.exponentBits - 1 ≤ f.magnitude pattern / 2 ^ f.fractionBits :=
    (Nat.le_div_iff_mul_le (by positivity)).2 h.le
  have hhigh : f.magnitude pattern / 2 ^ f.fractionBits < 2 ^ f.exponentBits :=
    Nat.div_lt_of_lt_mul (by rw [← signBit_eq]; exact f.magnitude_lt pattern)
  have hexponent : f.magnitude pattern / 2 ^ f.fractionBits = 2 ^ f.exponentBits - 1 := by omega
  have hfraction : f.fractionField pattern ≠ 0 := by
    intro hzero
    rw [fractionField_eq] at hzero
    have hparts := Nat.div_add_mod (f.magnitude pattern) (2 ^ f.fractionBits)
    rw [hzero, hexponent, Nat.mul_comm, Nat.add_zero] at hparts
    exact h.ne hparts
  rw [datum, exponentField_eq, if_pos hexponent, if_neg hfraction]

/-- A pattern denotes a number of either kind, or none, as its magnitude lies about infinity. -/
theorem magnitude_cases (f : BinaryFormat) (pattern : Nat) :
    (f.magnitude pattern < f.infinity ∧
      f.datum pattern = .finite (f.isNegative pattern) (f.value (f.magnitude pattern))) ∨
    (f.magnitude pattern = f.infinity ∧ f.datum pattern = .infinite (f.isNegative pattern)) ∨
    (f.infinity < f.magnitude pattern ∧ f.datum pattern = .notANumber) := by
  rcases Nat.lt_trichotomy (f.magnitude pattern) f.infinity with h | h | h
  · exact .inl ⟨h, datum_of_lt h⟩
  · exact .inr (.inl ⟨h, datum_of_eq h⟩)
  · exact .inr (.inr ⟨h, datum_of_gt h⟩)

theorem datum_eq_finite_iff {v : ℚ} : f.datum p = .finite negative v ↔
    f.magnitude p < f.infinity ∧ f.isNegative p = negative ∧ f.value (f.magnitude p) = v := by
  obtain ⟨h, hd⟩ | ⟨h, hd⟩ | ⟨h, hd⟩ := f.magnitude_cases p <;> rw [hd] <;> simp [h]
  omega

theorem datum_eq_infinite_iff : f.datum p = .infinite negative ↔
    f.magnitude p = f.infinity ∧ f.isNegative p = negative := by
  obtain ⟨h, hd⟩ | ⟨h, hd⟩ | ⟨h, hd⟩ := f.magnitude_cases p <;> rw [hd] <;> simp [h]
  · omega
  · omega

theorem datum_eq_notANumber_iff : f.datum p = .notANumber ↔ f.infinity < f.magnitude p := by
  obtain ⟨h, hd⟩ | ⟨h, hd⟩ | ⟨h, hd⟩ := f.magnitude_cases p <;> rw [hd] <;> simp [h]
  omega

/-- A number is made of its sign and its magnitude. -/
theorem datum_withSign (hm : m < f.infinity) :
    f.datum (f.withSign negative m) = .finite negative (f.value m) := by
  have hbound := hm.trans f.infinity_lt_signBit
  refine datum_eq_finite_iff.2 ⟨?_, isNegative_withSign hbound, ?_⟩
  · rwa [magnitude_withSign hbound]
  · rw [magnitude_withSign hbound]

theorem datum_withSign_infinity :
    f.datum (f.withSign negative f.infinity) = .infinite negative :=
  datum_eq_infinite_iff.2
    ⟨magnitude_withSign f.infinity_lt_signBit, isNegative_withSign f.infinity_lt_signBit⟩

/-- Where a number lies among the others, counted from zero. -/
def ordinal (f : BinaryFormat) (pattern : Nat) : ℤ :=
  Datum.signed (f.isNegative pattern) (f.magnitude pattern : ℤ)

/-- The signed values are in the order of the signed magnitudes. -/
theorem signed_value_le_iff {a b : Bool} : Datum.signed a (f.value m) ≤ Datum.signed b (f.value n) ↔
    Datum.signed a (m : ℤ) ≤ Datum.signed b (n : ℤ) := by
  have hm := f.value_nonneg m
  have hn := f.value_nonneg n
  have hle : ∀ k l, f.value k ≤ f.value l ↔ k ≤ l := fun _ _ => f.value_strictMono.le_iff_le
  cases a <;> cases b <;> simp only [Datum.signed, Bool.false_eq_true, if_true, if_false]
  · rw [hle, Int.ofNat_le]
  · -- A number that is not negative is at most the opposite of one only if both are zero.
    have hzero : f.value m ≤ -f.value n ↔ f.value m ≤ f.value 0 ∧ f.value n ≤ f.value 0 := by
      rw [value_zero]
      constructor
      · intro h
        constructor <;> linarith
      · rintro ⟨hm', hn'⟩
        linarith
    rw [hzero, hle, hle]
    omega
  · exact iff_of_true (by linarith) (by omega)
  · rw [neg_le_neg_iff, neg_le_neg_iff, hle, Int.ofNat_le]

/-- **The order of numbers is the order of their patterns** as integers with a sign. -/
theorem atMost_datum_iff (hf : 0 < f.infinity) (hp : f.magnitude p ≤ f.infinity)
    (hq : f.magnitude q ≤ f.infinity) :
    (f.datum p).AtMost (f.datum q) ↔ f.ordinal p ≤ f.ordinal q := by
  unfold ordinal
  obtain ⟨hp, hdp⟩ | ⟨hp, hdp⟩ | ⟨hp', -⟩ := f.magnitude_cases p
  · obtain ⟨hq, hdq⟩ | ⟨hq, hdq⟩ | ⟨hq', -⟩ := f.magnitude_cases q
    · rw [hdp, hdq]
      exact signed_value_le_iff
    · rw [hdp, hdq, hq]
      cases f.isNegative p <;> cases f.isNegative q <;> simp [Datum.AtMost, Datum.signed] <;> omega
    · omega
  · obtain ⟨hq, hdq⟩ | ⟨hq, hdq⟩ | ⟨hq', -⟩ := f.magnitude_cases q
    · rw [hdp, hdq, hp]
      cases f.isNegative p <;> cases f.isNegative q <;> simp [Datum.AtMost, Datum.signed] <;> omega
    · rw [hdp, hdq, hp, hq]
      cases f.isNegative p <;> cases f.isNegative q <;> simp [Datum.AtMost, Datum.signed]
      omega
    · omega
  · omega

end BinaryFormat

end DriverBench.Number
