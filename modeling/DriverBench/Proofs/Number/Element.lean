import DriverBench.Number.Element
import DriverBench.Proofs.Number.Numeral
import Mathlib.Data.Nat.Digits.Lemmas
/-!
# Elements of integer arrays

An element is written as people write integers, in base 10 and without needless zeros, and is stored
as the bytes of its two's complement, the lowest one first. Both forms are given here by formulas of
their own (`UsualDecimal`, `IntegerType.bytes`), next to the reading back of the stored form
(`IntegerType.ofBytes`). A value that its type holds is short enough in the usual writing for a
constant, so no element of the right range is ever refused for its length.
-/

namespace DriverBench.Number

/-! ## The usual writing -/

/-- The usual writing of a number in base 10: no zero stands in front of other digits. -/
structure UsualDecimal (cs : List Char) (n : Nat) : Prop where
  ne_nil : cs ≠ []
  denotes : DigitsDenote 10 cs n
  no_leading_zero : cs.head? = some '0' → cs = ['0']

variable {base k n : Nat} {c : Char} {cs : List Char} {T : IntegerType} {t : String} {v : Int}

namespace UsualDecimal

/-- The first digit is zero only in the writing of zero. -/
theorem exists_first (h : UsualDecimal cs n) : cs = ['0'] ∧ n = 0 ∨
    ∃ c rest d ds, cs = c :: rest ∧ c ≠ '0' ∧ d ≠ 0 ∧
      List.Forall₂ (IsDigit 10) (c :: rest) (d :: ds) ∧ n = Nat.ofDigits 10 (d :: ds).reverse := by
  have htable : ∀ p ∈ digitTable, p.1 = '0' ↔ p.2 = 0 := by decide
  obtain ⟨c, rest, rfl⟩ := List.exists_cons_of_ne_nil h.ne_nil
  obtain ⟨ds, hds, rfl⟩ := h.denotes
  cases hds with
  | @cons _ d _ ds hd hds =>
    by_cases hc : c = '0'
    · subst hc
      obtain ⟨-, rfl⟩ := List.cons.inj (h.no_leading_zero rfl)
      cases hds
      refine .inl ⟨rfl, ?_⟩
      simpa using (htable ('0', d) hd.1).1 rfl
    · exact .inr ⟨c, rest, d, ds, rfl, hc, fun hzero => hc ((htable (c, d) hd.1).2 hzero),
        .cons hd hds, rfl⟩

theorem magnitude (h : UsualDecimal cs n) : Magnitude cs n := by
  obtain ⟨rfl, rfl⟩ | ⟨c, rest, d, ds, rfl, hc, -, hds, rfl⟩ := h.exists_first
  · exact .zero
  · exact .decimal hc ⟨_, hds, rfl⟩

/-- A number in the usual writing has no more digits than it needs. -/
theorem length_le (h : UsualDecimal cs n) (hn : n < 10 ^ k) (hk : 0 < k) : cs.length ≤ k := by
  obtain ⟨rfl, rfl⟩ | ⟨c, rest, d, ds, rfl, -, hd, hds, rfl⟩ := h.exists_first
  · exact hk
  · have hlow : 10 ^ (d :: ds).reverse.length ≤ 10 * Nat.ofDigits 10 (d :: ds).reverse :=
      Nat.pow_length_le_mul_ofDigits (b := 8) (by simp) (by simpa using hd)
    have hpow : 10 ^ (c :: rest).length < 10 ^ (k + 1) := by
      rw [hds.length_eq, ← List.length_reverse, pow_succ]
      omega
    exact Nat.lt_succ_iff.1 ((Nat.pow_lt_pow_iff_right (by decide)).1 hpow)

theorem byteLength_eq (h : UsualDecimal cs n) : Text.byteLength cs = cs.length := by
  have htable : ∀ p ∈ digitTable, p.1.utf8Size = 1 := by decide
  have hone : ∀ c ∈ cs, c.utf8Size = 1 := by
    intro c hc
    obtain ⟨d, hd, -⟩ := h.denotes.exists_isDigit c hc
    exact htable (c, d) hd
  clear h
  induction cs with
  | nil => rfl
  | cons c rest ih =>
    rw [Text.byteLength_cons, hone c List.mem_cons_self,
      ih fun c hc => hone c (List.mem_cons_of_mem _ hc), List.length_cons]
    omega

end UsualDecimal

/-- The digits of a number are its usual writing. -/
theorem usualDecimal_toDigits (n : Nat) : UsualDecimal (Nat.toDigits 10 n) n := by
  have hdigit : ∀ d < 10, IsDigit 10 (Nat.digitChar d) d ∧ (Nat.digitChar d = '0' → d = 0) := by
    unfold IsDigit
    decide
  induction n using Nat.strongRecOn with
  | ind n ih =>
    rcases Nat.lt_or_ge n 10 with hn | hn
    · obtain ⟨hd, hzero⟩ := hdigit n hn
      rw [Nat.toDigits_of_lt_base hn]
      refine ⟨by simp, ⟨[n], .cons hd .nil, by simp⟩, fun hhead => ?_⟩
      rw [Option.some.inj hhead]
    · -- All digits but the last one are those of the tenth part, which is not zero.
      obtain ⟨hne, ⟨ds, hds, hvalue⟩, hlead⟩ := ih (n / 10) (by omega)
      obtain ⟨hd, -⟩ := hdigit (n % 10) (Nat.mod_lt _ (by decide))
      rw [Nat.toDigits_of_base_le (by decide) hn]
      refine ⟨by simp, ⟨ds ++ [n % 10], List.rel_append hds (.cons hd .nil), ?_⟩, fun hhead => ?_⟩
      · rw [List.reverse_append, List.reverse_singleton, List.singleton_append, Nat.ofDigits_cons,
          ← hvalue]
        omega
      · exfalso
        obtain ⟨-, hzero⟩ | ⟨c, rest, -, -, hdigits, hc, -⟩ := (ih (n / 10) (by omega)).exists_first
        · omega
        · rw [hdigits] at hhead
          exact hc (Option.some.inj hhead)

/-- The text that an integer is printed as is its usual writing. -/
theorem signed_toString (v : Int) : Signed UsualDecimal (toString v).toList v := by
  rw [Int.toString_eq_repr, Int.repr_eq_if]
  split
  · next hv =>
    rw [Nat.toList_repr]
    have h := Signed.unsigned (usualDecimal_toDigits v.toNat)
    rwa [Int.toNat_of_nonneg hv] at h
  · next hv =>
    rw [String.toList_append, Nat.toList_repr]
    have h := Signed.minus (usualDecimal_toDigits (-v).toNat)
    rwa [Int.toNat_of_nonneg (by omega), neg_neg] at h

/-! ## Elements that are read -/

theorem Signed.mono {p q : List Char → Nat → Prop} (h : Signed p cs v)
    (hpq : ∀ {cs n}, p cs n → q cs n) : Signed q cs v := by
  cases h with
  | unsigned hn => exact .unsigned (hpq hn)
  | plus hn => exact .plus (hpq hn)
  | minus hn => exact .minus (hpq hn)

theorem Signed.numeral (h : Signed UsualDecimal cs v) : Numeral cs v :=
  h.mono UsualDecimal.magnitude

/-- Values of 64 bits are written in fewer bytes than a constant may have. -/
theorem Signed.byteLength_lt (h : Signed UsualDecimal cs v) (hv : v.natAbs < 10 ^ 20) :
    Text.byteLength cs < constantLimit := by
  have hshort : ∀ {body n}, UsualDecimal body n → n < 10 ^ 20 → Text.byteLength body ≤ 20 :=
    fun hbody hn => hbody.byteLength_eq.trans_le (hbody.length_le hn (by decide))
  have hplus : '+'.utf8Size = 1 := by decide
  have hminus : '-'.utf8Size = 1 := by decide
  unfold constantLimit
  cases h with
  | unsigned hn =>
    have := hshort hn (by simpa using hv)
    omega
  | plus hn =>
    have := hshort hn (by simpa using hv)
    rw [Text.byteLength_cons]
    omega
  | minus hn =>
    have := hshort hn (by simpa using hv)
    rw [Text.byteLength_cons]
    omega

theorem IntegerType.Holds.natAbs_lt (h : T.Holds v) : v.natAbs < 10 ^ 20 := by
  cases T <;> simp [Holds, isSigned, width] at h <;> omega

/-- **A value that its type holds is read back from its usual writing.** -/
theorem IntegerType.read_of_usual (h : Signed UsualDecimal t.toList v) (hv : T.Holds v) :
    T.read t = .ok v := by
  have hshort := h.byteLength_lt hv.natAbs_lt
  rw [Text.byteLength_toList] at hshort
  rw [read_of_numeral hshort h.numeral, if_pos hv]

/-- Whatever its writing, a value that a type does not hold is not read. -/
theorem IntegerType.exists_error_of_not_holds (h : Numeral t.toList v) (hv : ¬ T.Holds v) :
    ∃ e, T.read t = .error e := by
  rcases Nat.lt_or_ge t.utf8ByteSize constantLimit with ht | ht
  · exact ⟨_, (read_of_numeral ht h).trans (if_neg hv)⟩
  · exact ⟨_, read_of_long ht⟩

/-! ## Elements as bytes -/

/-- The bytes of an integer in two's complement, the lowest one first: each byte is what is left of
the number above the lower bytes, taken modulo 256. -/
def IntegerType.bytes (T : IntegerType) (v : Int) : List UInt8 :=
  (List.range T.width).map fun k => UInt8.ofInt (v / 256 ^ k)

/-- The integer that bytes of a type denote. Of a type with negative values, the numbers of the
upper half stand for those below zero. -/
def IntegerType.ofBytes (T : IntegerType) (bytes : List UInt8) : Int :=
  let n := ofLittleEndian bytes
  if T.isSigned ∧ 2 ^ (8 * T.width - 1) ≤ n then n - 2 ^ (8 * T.width) else n

theorem IntegerType.length_bytes (T : IntegerType) (v : Int) : (T.bytes v).length = T.width := by
  rw [bytes, List.length_map, List.length_range]

theorem littleEndian_eq_map (count n : Nat) :
    littleEndian count n = (List.range count).map fun k => UInt8.ofNat (n / 256 ^ k) := by
  induction count generalizing n with
  | zero => rfl
  | succ count ih =>
    rw [littleEndian, ih, List.range_succ_eq_map, List.map_cons, List.map_map, pow_zero,
      Nat.div_one]
    congr 1
    refine List.map_congr_left fun k _ => ?_
    rw [Function.comp_apply, Nat.div_div_eq_div_mul, pow_succ']

/-- Of a number modulo a power of 256, the bytes below that power are those of the number. -/
theorem ofNat_twosComplement_div {w : Nat} (v : Int) (hk : k < w) :
    UInt8.ofNat (twosComplement (8 * w) v / 256 ^ k) = UInt8.ofInt (v / 256 ^ k) := by
  obtain ⟨m, rfl⟩ : ∃ m, w = k + 1 + m := ⟨w - (k + 1), by omega⟩
  -- The whole is a multiple of the weight of this byte and of 256 on top of that.
  have hpow : ((Nat.pow 2 (8 * (k + 1 + m)) : Nat) : Int) = 256 ^ k * (256 * 256 ^ m) := by
    rw [Nat.pow_eq, pow_mul]
    push_cast
    ring
  have hweight : (0 : Int) < 256 ^ k := by positivity
  have hbyte : v % (256 ^ k * (256 * 256 ^ m)) / 256 ^ k % 256 = v / 256 ^ k % 256 := by
    conv_rhs => rw [← Int.emod_add_mul_ediv v (256 ^ k * (256 * 256 ^ m))]
    rw [mul_assoc, Int.add_mul_ediv_left _ _ hweight.ne', mul_assoc, Int.add_mul_emod_self_left]
  have hnonneg : 0 ≤ v % (256 ^ k * (256 * 256 ^ m)) := Int.emod_nonneg _ (by positivity)
  refine UInt8.toNat_inj.1 ?_
  rw [twosComplement, hpow, UInt8.ofInt, UInt8.toNat_ofNat', UInt8.toNat_ofNat']
  zify
  rw [Int.toNat_of_nonneg hnonneg, Int.toNat_of_nonneg (Int.emod_nonneg _ (by decide))]
  simpa using hbyte

theorem littleEndian_twosComplement (T : IntegerType) (v : Int) :
    littleEndian T.width (twosComplement (8 * T.width) v) = T.bytes v := by
  rw [littleEndian_eq_map, IntegerType.bytes]
  exact List.map_congr_left fun k hk => ofNat_twosComplement_div v (List.mem_range.1 hk)

/-- **An element is stored as the bytes of what is read.** -/
theorem bytesOf_integer (T : IntegerType) (t : String) :
    (ElementType.integer T).bytesOf t = (T.read t).map T.bytes := by
  simp only [ElementType.bytesOf, littleEndian_twosComplement]

/-- **Bytes denote the value that they were made of**, if the type holds it. -/
theorem IntegerType.ofBytes_bytes (hv : T.Holds v) : T.ofBytes (T.bytes v) = v := by
  rw [← littleEndian_twosComplement, ofBytes, ofLittleEndian_littleEndian]
  cases T <;> simp [Holds, isSigned, width, twosComplement, byteValues] at hv ⊢ <;> omega

end DriverBench.Number
