import DriverBench.Number.Half
import DriverBench.Proofs.Number.Datum
/-!
# Truncation to half precision

A half whose exponent is not zero has its value in double precision too (`value_widen`), so cutting
off the fraction of a double is comparing magnitudes of doubles: between the least normal half and
the largest one, the result is the greatest half that is not above the double.
-/

namespace DriverBench.Number

open BinaryFormat

variable {h m n pattern p q : Nat} {negative : Bool} {v : ℚ}

/-! ## Halves among the doubles -/

/-- The magnitude in double precision of a normal half. -/
def widen (h : Nat) : Nat :=
  (h + 1008 * 2 ^ 10) * 2 ^ 42

theorem widen_strictMono : StrictMono widen := by
  intro m n hmn
  unfold widen
  omega

theorem value_widen (hh : 2 ^ 10 ≤ h) : double.value (widen h) = half.value h := by
  have hexponent : widen h / 2 ^ 52 = h / 2 ^ 10 + 1008 := by
    unfold widen
    omega
  have hfraction : widen h % 2 ^ 52 = h % 2 ^ 10 * 2 ^ 42 := by
    unfold widen
    omega
  have hhalf : half.value h = (1 + (h % 2 ^ 10 : Nat) / 2 ^ 10) *
      2 ^ ((h / 2 ^ 10 : Nat) - 15 : ℤ) := if_neg (by change h / 2 ^ 10 ≠ 0; omega)
  have hdouble : double.value (widen h) = (1 + (widen h % 2 ^ 52 : Nat) / 2 ^ 52) *
      2 ^ ((widen h / 2 ^ 52 : Nat) - 1023 : ℤ) := if_neg (by change widen h / 2 ^ 52 ≠ 0; omega)
  rw [hdouble, hhalf, hexponent, hfraction]
  generalize h / 2 ^ 10 = exponent
  generalize h % 2 ^ 10 = fraction
  have hbias : (((exponent + 1008 : Nat) : ℤ) - 1023) = exponent - 15 := by omega
  have hcut : ((fraction * 2 ^ 42 : Nat) : ℚ) / 2 ^ 52 = fraction / 2 ^ 10 := by
    rw [Nat.cast_mul]
    norm_num
    ring
  rw [hbias, hcut]

theorem value_largestHalf : double.value largestHalf = 65504 := by
  have hwiden : largestHalf = widen 0x7BFF := by decide
  rw [hwiden, value_widen (by decide)]
  norm_num [value, valueOf, half, bias]

theorem value_leastNormalHalf : double.value leastNormalHalf = 1 / 2 ^ 14 := by
  have hwiden : leastNormalHalf = widen 0x400 := by decide
  rw [hwiden, value_widen (by decide)]
  norm_num [value, valueOf, half, bias]

/-! ## Magnitudes -/

/-- The half that the magnitude of a double truncates to, if that is one of a number. -/
def truncateMagnitude (m : Nat) : Nat :=
  if largestHalf < m then half.infinity
  else if m < leastNormalHalf then 0
  else m / 2 ^ 42 - 1008 * 2 ^ 10

theorem truncateToHalf_eq (p : Nat) : truncateToHalf p =
    if double.infinity < double.magnitude p then half.notANumber
    else if largestHalf < double.magnitude p then
      half.withSign (double.isNegative p) half.infinity
    else if double.magnitude p < leastNormalHalf then half.withSign (double.isNegative p) 0
    else half.withSign (double.isNegative p) (double.magnitude p / 2 ^ 42 - 1008 * 2 ^ 10) :=
  rfl

/-- A pattern of a number is truncated without its sign, which stays. -/
theorem truncateToHalf_of_le (hp : double.magnitude p ≤ double.infinity) :
    truncateToHalf p =
      half.withSign (double.isNegative p) (truncateMagnitude (double.magnitude p)) := by
  rw [truncateToHalf_eq, if_neg (Nat.not_lt.2 hp), truncateMagnitude,
    apply_ite (half.withSign _), apply_ite (half.withSign _)]

theorem truncateToHalf_of_gt (hp : double.infinity < double.magnitude p) :
    truncateToHalf p = half.notANumber :=
  if_pos hp

/-- **A magnitude in the range of the normal halves lies between two neighbours among them**, the
lower one of which is its half. -/
theorem truncateMagnitude_cases (m : Nat) :
    (m < leastNormalHalf ∧ truncateMagnitude m = 0) ∨
    (leastNormalHalf ≤ m ∧ m ≤ largestHalf ∧ 2 ^ 10 ≤ truncateMagnitude m ∧
      truncateMagnitude m < half.infinity ∧ widen (truncateMagnitude m) ≤ m ∧
      m < widen (truncateMagnitude m + 1)) ∨
    (largestHalf < m ∧ truncateMagnitude m = half.infinity) := by
  have hinfinity : half.infinity = 31744 := by decide
  unfold truncateMagnitude widen
  rw [hinfinity]
  unfold largestHalf leastNormalHalf
  split
  · next hlarge => exact .inr (.inr ⟨hlarge, rfl⟩)
  · next hlarge =>
    split
    · next hsmall => exact .inl ⟨hsmall, rfl⟩
    · next hsmall => omega

theorem truncateMagnitude_le (m : Nat) : truncateMagnitude m ≤ half.infinity := by
  obtain ⟨-, h⟩ | ⟨-, -, -, h, -, -⟩ | ⟨-, h⟩ := truncateMagnitude_cases m <;> omega

theorem truncateMagnitude_mono (hmn : m ≤ n) : truncateMagnitude m ≤ truncateMagnitude n := by
  have hordered : leastNormalHalf ≤ largestHalf := by decide
  obtain ⟨-, hm⟩ | ⟨hlow, -, -, hfinite, hwiden, -⟩ | ⟨hlarge, -⟩ := truncateMagnitude_cases m
  · omega
  · obtain ⟨hn, -⟩ | ⟨-, -, -, -, -, hnext⟩ | ⟨-, hn⟩ := truncateMagnitude_cases n
    · omega
    · exact Nat.lt_succ_iff.1 (widen_strictMono.lt_iff_lt.1 (hwiden.trans_lt (hmn.trans_lt hnext)))
    · omega
  · obtain ⟨hn, -⟩ | ⟨-, hn, -⟩ | ⟨-, hn⟩ := truncateMagnitude_cases n
    · omega
    · omega
    · exact (truncateMagnitude_le m).trans hn.ge

/-- A normal half truncates to itself. -/
theorem truncateMagnitude_widen (hlow : 2 ^ 10 ≤ h) (hhigh : h < half.infinity) :
    truncateMagnitude (widen h) = h := by
  have hinfinity : half.infinity = 31744 := by decide
  rw [hinfinity] at hhigh
  unfold truncateMagnitude largestHalf leastNormalHalf widen
  rw [if_neg (by omega), if_neg (by omega)]
  omega

/-- **The half is the greatest one that is not above the magnitude.** -/
theorem value_le_of_value_le (hlow : leastNormalHalf ≤ m) (hhigh : m ≤ largestHalf)
    (hn : half.value n ≤ double.value m) : half.value n ≤ half.value (truncateMagnitude m) := by
  obtain ⟨h, -⟩ | ⟨-, -, hnormal, -, -, hnext⟩ | ⟨h, -⟩ := truncateMagnitude_cases m
  · omega
  · refine half.value_strictMono.monotone ?_
    by_contra hgreater
    have hsucc : truncateMagnitude m + 1 ≤ n := Nat.lt_of_not_le hgreater
    have habove : widen (truncateMagnitude m + 1) ≤ widen n := widen_strictMono.monotone hsucc
    rw [← value_widen (hnormal.trans (Nat.le_of_succ_le hsucc))] at hn
    have hbelow : widen n ≤ m := double.value_strictMono.le_iff_le.1 hn
    omega
  · omega

theorem signed_truncateMagnitude_le {a b : Bool}
    (h : Datum.signed a (m : ℤ) ≤ Datum.signed b (n : ℤ)) :
    Datum.signed a (truncateMagnitude m : ℤ) ≤ Datum.signed b (truncateMagnitude n : ℤ) := by
  have hzero : truncateMagnitude 0 = 0 := by decide
  cases a <;> cases b <;> simp only [Datum.signed, Bool.false_eq_true, if_true, if_false] at h ⊢
  · exact Int.ofNat_le.2 (truncateMagnitude_mono (Int.ofNat_le.1 h))
  · obtain ⟨rfl, rfl⟩ : m = 0 ∧ n = 0 := by omega
    rw [hzero]
    decide
  · omega
  · exact neg_le_neg (Int.ofNat_le.2 (truncateMagnitude_mono (by omega)))

/-- The value of the half is one of a double as well, the half of which it is. -/
theorem exists_widened (m : Nat) : ∃ w ≤ double.infinity,
    truncateMagnitude w = truncateMagnitude m ∧ ∀ negative,
      double.datum (double.withSign negative w) =
        half.datum (half.withSign negative (truncateMagnitude m)) := by
  obtain ⟨-, hm⟩ | ⟨-, hlarge, hnormal, hfinite, hwiden, -⟩ | ⟨-, hm⟩ := truncateMagnitude_cases m
  · rw [hm]
    refine ⟨0, Nat.zero_le _, by decide, fun negative => ?_⟩
    rw [datum_withSign (by decide), datum_withSign (by decide), value_zero, value_zero]
  · have hbound : widen (truncateMagnitude m) < double.infinity :=
      (hwiden.trans hlarge).trans_lt (by decide)
    refine ⟨widen (truncateMagnitude m), hbound.le, truncateMagnitude_widen hnormal hfinite,
      fun negative => ?_⟩
    rw [datum_withSign hbound, datum_withSign hfinite, value_widen hnormal]
  · rw [hm]
    refine ⟨double.infinity, le_rfl, by decide, fun negative => ?_⟩
    rw [datum_withSign_infinity, datum_withSign_infinity]

/-! ## Patterns -/

theorem isNegative_truncateToHalf (hp : double.magnitude p ≤ double.infinity) :
    half.isNegative (truncateToHalf p) = double.isNegative p := by
  rw [truncateToHalf_of_le hp]
  exact isNegative_withSign ((truncateMagnitude_le _).trans_lt half.infinity_lt_signBit)

theorem magnitude_truncateToHalf (hp : double.magnitude p ≤ double.infinity) :
    half.magnitude (truncateToHalf p) = truncateMagnitude (double.magnitude p) := by
  rw [truncateToHalf_of_le hp]
  exact magnitude_withSign ((truncateMagnitude_le _).trans_lt half.infinity_lt_signBit)

/-- Only what a double denotes matters. -/
theorem truncateToHalf_congr (h : double.datum p = double.datum q) :
    truncateToHalf p = truncateToHalf q := by
  obtain ⟨hp, hdp⟩ | ⟨hp, hdp⟩ | ⟨hp, hdp⟩ := double.magnitude_cases p
  · rw [hdp] at h
    obtain ⟨hq, hsign, hvalue⟩ := datum_eq_finite_iff.1 h.symm
    rw [truncateToHalf_of_le hp.le, truncateToHalf_of_le hq.le, hsign,
      double.value_strictMono.injective hvalue]
  · rw [hdp] at h
    obtain ⟨hq, hsign⟩ := datum_eq_infinite_iff.1 h.symm
    rw [truncateToHalf_of_le hp.le, truncateToHalf_of_le hq.le, hsign, hp, hq]
  · rw [hdp] at h
    have hq := datum_eq_notANumber_iff.1 h.symm
    rw [truncateToHalf_of_gt hp, truncateToHalf_of_gt hq]

/-- **Truncation keeps the order of numbers.** -/
theorem truncateToHalf_mono (h : (double.datum p).AtMost (double.datum q)) :
    (half.datum (truncateToHalf p)).AtMost (half.datum (truncateToHalf q)) := by
  obtain ⟨hp, hq⟩ := h.ne_notANumber
  rw [Ne, datum_eq_notANumber_iff, Nat.not_lt] at hp hq
  rw [atMost_datum_iff (by decide) hp hq] at h
  have hbound : ∀ {r}, double.magnitude r ≤ double.infinity →
      half.magnitude (truncateToHalf r) ≤ half.infinity := by
    intro r hr
    rw [magnitude_truncateToHalf hr]
    exact truncateMagnitude_le _
  rw [atMost_datum_iff (by decide) (hbound hp) (hbound hq)]
  unfold ordinal at h ⊢
  rw [isNegative_truncateToHalf hp, isNegative_truncateToHalf hq, magnitude_truncateToHalf hp,
    magnitude_truncateToHalf hq]
  exact signed_truncateMagnitude_le h

/-- Some double denotes what the half denotes. -/
theorem exists_datum_eq (p : Nat) : ∃ z < 2 ^ 64,
    double.datum z = half.datum (truncateToHalf p) ∧ truncateToHalf z = truncateToHalf p := by
  have hbits : (2 : Nat) ^ 64 = 2 * double.signBit := by decide
  rcases Nat.lt_or_ge double.infinity (double.magnitude p) with hp | hp
  · have hhalf : half.datum half.notANumber = .notANumber := datum_eq_notANumber_iff.2 (by decide)
    have hdouble : double.datum double.notANumber = .notANumber :=
      datum_eq_notANumber_iff.2 (by decide)
    rw [truncateToHalf_of_gt hp]
    exact ⟨double.notANumber, by decide, hdouble.trans hhalf.symm, truncateToHalf_of_gt (by decide)⟩
  · obtain ⟨w, hw, htruncate, hdatum⟩ := exists_widened (double.magnitude p)
    have hbound : w < double.signBit := hw.trans_lt double.infinity_lt_signBit
    have hmagnitude : double.magnitude (double.withSign (double.isNegative p) w) = w :=
      magnitude_withSign hbound
    rw [truncateToHalf_of_le hp, hbits]
    refine ⟨double.withSign (double.isNegative p) w, withSign_lt hbound, hdatum _, ?_⟩
    rw [truncateToHalf_of_le (hmagnitude.trans_le hw), isNegative_withSign hbound, hmagnitude,
      htruncate]

/-- No half without a leading one is a result, but zero. -/
theorem not_isSubnormal_truncateToHalf (p : Nat) : ¬ half.IsSubnormal (truncateToHalf p) := by
  rintro ⟨hexponent, hfraction⟩
  rcases Nat.lt_or_ge double.infinity (double.magnitude p) with hp | hp
  · rw [truncateToHalf_of_gt hp] at hexponent
    exact absurd hexponent (by decide)
  · rw [exponentField_eq, magnitude_truncateToHalf hp] at hexponent
    rw [fractionField_eq, magnitude_truncateToHalf hp] at hfraction
    change _ / 2 ^ 10 = 0 at hexponent
    obtain ⟨-, hzero⟩ | ⟨-, -, hnormal, -⟩ | ⟨-, hinfinite⟩ :=
      truncateMagnitude_cases (double.magnitude p)
    · rw [hzero] at hfraction
      exact hfraction (Nat.zero_mod _)
    · omega
    · rw [hinfinite] at hexponent
      exact absurd hexponent (by decide)

theorem truncateToHalf_lt (p : Nat) : truncateToHalf p < 2 ^ 16 := by
  have hbits : (2 : Nat) ^ 16 = 2 * half.signBit := by decide
  rcases Nat.lt_or_ge double.infinity (double.magnitude p) with hp | hp
  · rw [truncateToHalf_of_gt hp]
    decide
  · rw [truncateToHalf_of_le hp, hbits]
    exact withSign_lt ((truncateMagnitude_le _).trans_lt half.infinity_lt_signBit)

/-- A double in the range of the normal halves becomes the greatest half that is not above it. -/
theorem truncateToHalf_of_finite (hp : double.datum p = .finite negative v) (hlow : 1 / 2 ^ 14 ≤ v)
    (hhigh : v ≤ 65504) : ∃ w, half.datum (truncateToHalf p) = .finite negative w ∧
      half.IsNormal (truncateToHalf p) ∧ w ≤ v ∧
      ∀ h sign u, half.datum h = .finite sign u → u ≤ v → u ≤ w := by
  obtain ⟨hfinite, rfl, rfl⟩ := datum_eq_finite_iff.1 hp
  rw [← value_leastNormalHalf, double.value_strictMono.le_iff_le] at hlow
  rw [← value_largestHalf, double.value_strictMono.le_iff_le] at hhigh
  obtain ⟨h, -⟩ | ⟨-, -, hnormal, hhalf, hwiden, -⟩ | ⟨h, -⟩ :=
    truncateMagnitude_cases (double.magnitude p)
  · omega
  · refine ⟨half.value (truncateMagnitude (double.magnitude p)), ?_, ?_, ?_, ?_⟩
    · rw [truncateToHalf_of_le hfinite.le]
      exact datum_withSign hhalf
    · rw [IsNormal, exponentField_eq, magnitude_truncateToHalf hfinite.le]
      change 0 < _ / 2 ^ 10 ∧ _ / 2 ^ 10 < 31
      have hinfinity : half.infinity = 31744 := by decide
      omega
    · rw [← value_widen hnormal]
      exact double.value_strictMono.monotone hwiden
    · intro h sign u hu hle
      obtain ⟨-, -, rfl⟩ := datum_eq_finite_iff.1 hu
      exact value_le_of_value_le hlow hhigh hle
  · omega

theorem truncateToHalf_of_large (hp : double.datum p = .finite negative v) (hv : 65504 < v) :
    truncateToHalf p = half.withSign negative half.infinity := by
  obtain ⟨hfinite, rfl, rfl⟩ := datum_eq_finite_iff.1 hp
  rw [← value_largestHalf, double.value_strictMono.lt_iff_lt] at hv
  rw [truncateToHalf_of_le hfinite.le, truncateMagnitude, if_pos hv]

theorem truncateToHalf_of_small (hp : double.datum p = .finite negative v) (hv : v < 1 / 2 ^ 14) :
    truncateToHalf p = half.withSign negative 0 := by
  obtain ⟨hfinite, rfl, rfl⟩ := datum_eq_finite_iff.1 hp
  rw [← value_leastNormalHalf, double.value_strictMono.lt_iff_lt] at hv
  have hordered : leastNormalHalf ≤ largestHalf := by decide
  rw [truncateToHalf_of_le hfinite.le, truncateMagnitude, if_neg (by omega), if_pos hv]

theorem truncateToHalf_of_infinite (hp : double.datum p = .infinite negative) :
    truncateToHalf p = half.withSign negative half.infinity := by
  obtain ⟨hinfinite, rfl⟩ := datum_eq_infinite_iff.1 hp
  rw [truncateToHalf_of_le hinfinite.le, hinfinite, truncateMagnitude, if_pos (by decide)]

/-- **Truncation to half precision is exact on every double.** A double between the least normal
half and the largest one, both included, becomes a normal half of the same sign, and that is the
greatest of all halves that are not above it in magnitude. What is larger, infinity with it, becomes
infinity and what is smaller zero, with the sign kept, and what is no number the one quiet pattern.
So no result is subnormal and the order of numbers is kept. What a result denotes is denoted by a
double too, and truncates to that result again. -/
theorem truncateToHalf_truncates (x y : UInt64) :
    (∀ negative v, double.datum x.toNat = .finite negative v →
      (1 / 2 ^ 14 ≤ v → v ≤ 65504 →
        ∃ w, half.datum (truncateToHalf x.toNat) = .finite negative w ∧
          half.IsNormal (truncateToHalf x.toNat) ∧ w ≤ v ∧
          ∀ h sign u, half.datum h = .finite sign u → u ≤ v → u ≤ w) ∧
      (65504 < v → truncateToHalf x.toNat = if negative then 0xFC00 else 0x7C00) ∧
      (v < 1 / 2 ^ 14 → truncateToHalf x.toNat = if negative then 0x8000 else 0)) ∧
    (∀ negative, double.datum x.toNat = .infinite negative →
      truncateToHalf x.toNat = if negative then 0xFC00 else 0x7C00) ∧
    (double.datum x.toNat = .notANumber → truncateToHalf x.toNat = 0x7E00) ∧
    truncateToHalf x.toNat < 2 ^ 16 ∧ ¬ half.IsSubnormal (truncateToHalf x.toNat) ∧
    ((double.datum x.toNat).AtMost (double.datum y.toNat) →
      (half.datum (truncateToHalf x.toNat)).AtMost (half.datum (truncateToHalf y.toNat))) ∧
    (∃ z : UInt64, double.datum z.toNat = half.datum (truncateToHalf x.toNat)) ∧
    ∀ z : UInt64, double.datum z.toNat = half.datum (truncateToHalf x.toNat) →
      truncateToHalf z.toNat = truncateToHalf x.toNat := by
  have hinfinity : ∀ negative, half.withSign negative half.infinity =
      if negative then 0xFC00 else 0x7C00 := by decide
  have hzero : ∀ negative, half.withSign negative 0 = if negative then 0x8000 else 0 := by decide
  obtain ⟨z, hz, hdatum, htruncate⟩ := exists_datum_eq x.toNat
  refine ⟨fun negative v hx => ⟨truncateToHalf_of_finite hx, fun hv => ?_, fun hv => ?_⟩,
    fun negative hx => ?_, fun hx => ?_, truncateToHalf_lt _, not_isSubnormal_truncateToHalf _,
    truncateToHalf_mono, ⟨UInt64.ofNat z, ?_⟩, fun z' hz' => ?_⟩
  · exact (truncateToHalf_of_large hx hv).trans (hinfinity negative)
  · exact (truncateToHalf_of_small hx hv).trans (hzero negative)
  · exact (truncateToHalf_of_infinite hx).trans (hinfinity negative)
  · exact truncateToHalf_of_gt (datum_eq_notANumber_iff.1 hx)
  · rwa [UInt64.toNat_ofNat_of_lt' hz]
  · exact (truncateToHalf_congr (hz'.trans hdatum.symm)).trans htruncate

/-- To the nearest half, `1 + 2 ^ -11 + 2 ^ -12` would go up. -/
example : truncateToHalf 0x3FF0030000000000 = 0x3C00 := by decide

end DriverBench.Number
