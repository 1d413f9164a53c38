import DriverBench.Number.Constant
import DriverBench.Proofs.Token.Name
import Mathlib.Data.List.Forall2
import Mathlib.Data.Nat.Digits.Lemmas
/-!
# Numerals

A numeral is a text that denotes an integer: a sign or none, and digits of base 16, 8 or 10, the
base being told by how they begin (`Numeral`). The value of digits is the usual sum of powers of the
base. Reading a constant of an integer type knows exactly the numerals and finds exactly their
values, however large these are; only then does it ask whether the type holds the value.

Digits are read from the left, each one on top of what was read before, so the statement that the
induction goes through with speaks of the digits behind those that were read already.
-/

namespace DriverBench.Number

/-! ## Numerals and what they denote -/

/-- The digits of all bases with their values. A letter counts in either case. -/
def digitTable : List (Char × Nat) :=
  [('0', 0), ('1', 1), ('2', 2), ('3', 3), ('4', 4), ('5', 5), ('6', 6), ('7', 7), ('8', 8),
    ('9', 9), ('a', 10), ('b', 11), ('c', 12), ('d', 13), ('e', 14), ('f', 15), ('A', 10),
    ('B', 11), ('C', 12), ('D', 13), ('E', 14), ('F', 15)]

/-- A character is a digit of a base and has a value. -/
def IsDigit (base : Nat) (c : Char) (d : Nat) : Prop :=
  (c, d) ∈ digitTable ∧ d < base

/-- Digits of a base denote a number, the first one being that of the highest weight. -/
def DigitsDenote (base : Nat) (cs : List Char) (n : Nat) : Prop :=
  ∃ ds, List.Forall₂ (IsDigit base) cs ds ∧ n = Nat.ofDigits base ds.reverse

/-- **Unsigned numerals.** What follows `0x` is in base 16, what follows another `0` in base 8; all
else is in base 10. -/
inductive Magnitude : List Char → Nat → Prop
  | hexadecimal {x : Char} {cs : List Char} {n : Nat} : x = 'x' ∨ x = 'X' → cs ≠ [] →
      DigitsDenote 16 cs n → Magnitude ('0' :: x :: cs) n
  | octal {cs : List Char} {n : Nat} : cs ≠ [] → DigitsDenote 8 cs n → Magnitude ('0' :: cs) n
  | zero : Magnitude ['0'] 0
  | decimal {c : Char} {cs : List Char} {n : Nat} : c ≠ '0' → DigitsDenote 10 (c :: cs) n →
      Magnitude (c :: cs) n

/-- A sign or none in front of what denotes a number. -/
inductive Signed (magnitude : List Char → Nat → Prop) : List Char → Int → Prop
  | unsigned {cs : List Char} {n : Nat} : magnitude cs n → Signed magnitude cs n
  | plus {cs : List Char} {n : Nat} : magnitude cs n → Signed magnitude ('+' :: cs) n
  | minus {cs : List Char} {n : Nat} : magnitude cs n → Signed magnitude ('-' :: cs) (-n)

/-- **Numerals**, and the integers that they denote. -/
abbrev Numeral : List Char → Int → Prop :=
  Signed Magnitude

/-- The integers that a type holds, by its width and by whether it has negative values. -/
def IntegerType.Holds (T : IntegerType) (v : Int) : Prop :=
  if T.isSigned then -2 ^ (8 * T.width - 1) ≤ v ∧ v < 2 ^ (8 * T.width - 1)
  else 0 ≤ v ∧ v < 2 ^ (8 * T.width)

instance (T : IntegerType) (v : Int) : Decidable (T.Holds v) :=
  inferInstanceAs (Decidable (if T.isSigned
    then -2 ^ (8 * T.width - 1) ≤ v ∧ v < 2 ^ (8 * T.width - 1)
    else 0 ≤ v ∧ v < 2 ^ (8 * T.width)))

variable {base acc d n : Nat} {c : Char} {cs : List Char} {v w : Int}

/-! ## Digits -/

theorem toNat_lt_of_digitValue? (h : digitValue? c = some d) : c.toNat < 128 := by
  have hle : ∀ a b : Char, a ≤ b ↔ a.toNat ≤ b.toNat := fun _ _ => Iff.rfl
  have hlast : '9'.toNat < 128 ∧ 'f'.toNat < 128 ∧ 'F'.toNat < 128 := by decide
  simp only [digitValue?, hle] at h
  grind

/-- A digit has its value in the table, and only such a character has a value. -/
theorem digitValue?_eq_some_iff : digitValue? c = some d ↔ (c, d) ∈ digitTable := by
  have hsmall : ∀ n < 128, ∀ d ∈ digitValue? (Char.ofNat n), (Char.ofNat n, d) ∈ digitTable := by
    decide +kernel
  have htable : ∀ p ∈ digitTable, digitValue? p.1 = some p.2 := by decide
  constructor
  · intro h
    have hc := hsmall c.toNat (toNat_lt_of_digitValue? h)
    rw [Char.ofNat_toNat] at hc
    exact hc d h
  · intro h
    exact htable (c, d) h

theorem readBase_cons : readBase base acc (c :: cs) = some n ↔
    ∃ d, IsDigit base c d ∧ readBase base (acc * base + d) cs = some n := by
  rw [readBase]
  constructor
  · intro h
    split at h
    next d hd =>
      split at h
      next hlt => exact ⟨d, ⟨digitValue?_eq_some_iff.1 hd, hlt⟩, h⟩
      next => cases h
    next => cases h
  · rintro ⟨d, ⟨hd, hlt⟩, hrest⟩
    rw [digitValue?_eq_some_iff.2 hd]
    dsimp only
    rw [if_pos hlt, hrest]

/-- Digits are read on top of those in front of them, which they move to higher weights. -/
theorem readBase_eq_some_iff : readBase base acc cs = some n ↔
    ∃ ds, List.Forall₂ (IsDigit base) cs ds ∧
      n = acc * base ^ cs.length + Nat.ofDigits base ds.reverse := by
  induction cs generalizing acc with
  | nil =>
    rw [readBase, Option.some.injEq]
    constructor
    · rintro rfl
      exact ⟨[], .nil, by simp⟩
    · rintro ⟨ds, hds, rfl⟩
      cases hds
      simp
  | cons c cs ih =>
    -- The first digit ends up as the last one of the reversed list, under the weight of all others.
    have hvalue : ∀ (d : Nat) (ds : List Nat), ds.length = cs.length →
        acc * base ^ (c :: cs).length + Nat.ofDigits base (d :: ds).reverse =
          (acc * base + d) * base ^ cs.length + Nat.ofDigits base ds.reverse := by
      intro d ds hlength
      rw [List.reverse_cons, Nat.ofDigits_append, List.length_reverse, hlength,
        Nat.ofDigits_singleton, List.length_cons]
      ring
    rw [readBase_cons]
    constructor
    · rintro ⟨d, hd, hrest⟩
      obtain ⟨ds, hds, rfl⟩ := ih.1 hrest
      exact ⟨d :: ds, .cons hd hds, (hvalue d ds hds.length_eq.symm).symm⟩
    · rintro ⟨ds, hds, rfl⟩
      cases hds with
      | cons hd hds => exact ⟨_, hd, ih.2 ⟨_, hds, hvalue _ _ hds.length_eq.symm⟩⟩

theorem readNatural_eq_some_iff :
    readNatural base cs = some n ↔ cs ≠ [] ∧ DigitsDenote base cs n := by
  cases cs with
  | nil => simp [readNatural]
  | cons c cs =>
    rw [readNatural, readBase_eq_some_iff, DigitsDenote]
    · simp
    · simp

/-! ## Magnitudes -/

theorem ne_x_of_isDigit {x : Char} (h : IsDigit 8 x d) : x ≠ 'x' ∧ x ≠ 'X' := by
  have htable : ∀ p ∈ digitTable, p.2 < 8 → p.1 ≠ 'x' ∧ p.1 ≠ 'X' := by decide
  exact htable (x, d) h.1 h.2

theorem readMagnitude_octal {x : Char} (hx : x ≠ 'x' ∧ x ≠ 'X') :
    readMagnitude ('0' :: x :: cs) = readNatural 8 (x :: cs) := by
  unfold readMagnitude
  split
  · next heq => exact absurd (List.cons.inj (List.cons.inj heq).2).1 hx.1
  · next heq => exact absurd (List.cons.inj (List.cons.inj heq).2).1 hx.2
  · next heq =>
    obtain ⟨rfl, rfl⟩ := List.cons.inj (List.cons.inj heq).2
    rfl
  · next hoct => exact absurd rfl (hoct x cs)

theorem readMagnitude_decimal (hc : c ≠ '0') :
    readMagnitude (c :: cs) = readNatural 10 (c :: cs) := by
  unfold readMagnitude
  split
  · next heq => exact absurd (List.cons.inj heq).1 hc
  · next heq => exact absurd (List.cons.inj heq).1 hc
  · next heq => exact absurd (List.cons.inj heq).1 hc
  · rfl

theorem readMagnitude_eq_some_iff : readMagnitude cs = some n ↔ Magnitude cs n := by
  constructor
  · intro h
    rcases cs with _ | ⟨c, cs⟩
    · cases h
    by_cases hc : c = '0'
    · subst hc
      rcases cs with _ | ⟨x, cs⟩
      · cases h
        exact .zero
      by_cases hx : x = 'x' ∨ x = 'X'
      · have hhex : readMagnitude ('0' :: x :: cs) = readNatural 16 cs := by
          rcases hx with rfl | rfl <;> rfl
        obtain ⟨hne, hcs⟩ := readNatural_eq_some_iff.1 (hhex.symm.trans h)
        exact .hexadecimal hx hne hcs
      · rw [readMagnitude_octal (not_or.1 hx)] at h
        obtain ⟨hne, hcs⟩ := readNatural_eq_some_iff.1 h
        exact .octal hne hcs
    · rw [readMagnitude_decimal hc] at h
      exact .decimal hc (readNatural_eq_some_iff.1 h).2
  · intro h
    cases h with
    | hexadecimal hx hne hcs =>
      rcases hx with rfl | rfl <;> exact readNatural_eq_some_iff.2 ⟨hne, hcs⟩
    | octal hne hcs =>
      obtain ⟨ds, hds, rfl⟩ := hcs
      cases hds with
      | nil => exact absurd rfl hne
      | cons hd hds =>
        rw [readMagnitude_octal (ne_x_of_isDigit hd)]
        exact readNatural_eq_some_iff.2 ⟨hne, _, .cons hd hds, rfl⟩
    | zero => decide
    | decimal hc hcs =>
      rw [readMagnitude_decimal hc]
      exact readNatural_eq_some_iff.2 ⟨List.cons_ne_nil _ _, hcs⟩

/-! ## Numerals -/

/-- What an unsigned numeral begins with is a digit. -/
theorem Magnitude.exists_digit (h : Magnitude cs n) :
    ∃ c rest d, cs = c :: rest ∧ IsDigit 10 c d := by
  have hzero : IsDigit 10 '0' 0 := ⟨by decide, by decide⟩
  cases h with
  | hexadecimal => exact ⟨_, _, _, rfl, hzero⟩
  | octal => exact ⟨_, _, _, rfl, hzero⟩
  | zero => exact ⟨_, _, _, rfl, hzero⟩
  | decimal hc hcs =>
    obtain ⟨ds, hds, rfl⟩ := hcs
    cases hds with
    | cons hd _ => exact ⟨_, _, _, rfl, hd⟩

theorem isDigit_of_isDigit (h : IsDigit base c d) (hbase : base ≤ 10) : c.isDigit = true := by
  have htable : ∀ p ∈ digitTable, p.2 < 10 → p.1.isDigit = true := by decide
  exact htable (c, d) h.1 (h.2.trans_le hbase)

theorem Magnitude.takeSign_eq (h : Magnitude cs n) : takeSign cs = (false, cs) := by
  obtain ⟨c, rest, d, rfl, hd⟩ := h.exists_digit
  have hdigit := isDigit_of_isDigit hd le_rfl
  unfold takeSign
  split
  · next heq =>
    obtain ⟨rfl, -⟩ := List.cons.inj heq
    cases hdigit
  · next heq =>
    obtain ⟨rfl, -⟩ := List.cons.inj heq
    cases hdigit
  · rfl

/-- An integer is its magnitude, with the sign in front of it. -/
theorem readInteger?_of_takeSign {negative : Bool} {body : List Char}
    (h : takeSign cs = (negative, body)) :
    readInteger? cs = some v ↔ ∃ n, Magnitude body n ∧ v = if negative then -(n : Int) else n := by
  simp only [← readMagnitude_eq_some_iff]
  rw [readInteger?, h]
  dsimp only
  cases readMagnitude body with
  | none => simp
  | some n => simp [eq_comm]

/-- **Integers are read as numerals**, and each numeral as what it denotes. -/
theorem readInteger?_eq_some_iff : readInteger? cs = some v ↔ Numeral cs v := by
  constructor
  · intro h
    rcases hsign : takeSign cs with ⟨negative, body⟩
    obtain ⟨n, hn, rfl⟩ := (readInteger?_of_takeSign hsign).1 h
    unfold takeSign at hsign
    split at hsign <;> obtain ⟨rfl, rfl⟩ := Prod.mk.inj hsign
    · exact .minus hn
    · exact .plus hn
    · exact .unsigned hn
  · intro h
    cases h with
    | unsigned hn => exact (readInteger?_of_takeSign hn.takeSign_eq).2 ⟨_, hn, rfl⟩
    | plus hn => exact (readInteger?_of_takeSign rfl).2 ⟨_, hn, rfl⟩
    | minus hn => exact (readInteger?_of_takeSign rfl).2 ⟨_, hn, rfl⟩

/-- A text denotes one integer at most. -/
theorem Numeral.unique (h : Numeral cs v) (h' : Numeral cs w) : v = w :=
  Option.some.inj ((readInteger?_eq_some_iff.2 h).symm.trans (readInteger?_eq_some_iff.2 h'))

/-! ## Numerals as tokens -/

theorem DigitsDenote.exists_isDigit (h : DigitsDenote base cs n) :
    ∀ c ∈ cs, ∃ d, IsDigit base c d := by
  obtain ⟨ds, hds, -⟩ := h
  induction hds with
  | nil => simp
  | cons hd _ ih =>
    intro c hc
    rcases List.mem_cons.1 hc with rfl | hc
    · exact ⟨_, hd⟩
    · exact ih c hc

theorem isWordPart_of_mem_digits (h : DigitsDenote base cs n) :
    ∀ c ∈ cs, Token.isWordPart c = true := by
  have htable : ∀ p ∈ digitTable, Token.isWordPart p.1 = true := by decide
  intro c hc
  obtain ⟨d, hd, -⟩ := h.exists_isDigit c hc
  exact htable (c, d) hd

theorem Magnitude.parts (h : Magnitude cs n) : ∀ c ∈ cs, Token.isWordPart c = true := by
  cases h with
  | @hexadecimal x cs n hx _ hcs =>
    have hpart : Token.isWordPart x = true := by rcases hx with rfl | rfl <;> decide
    intro c hc
    rcases List.mem_cons.1 hc with rfl | hc
    · decide
    · rcases List.mem_cons.1 hc with rfl | hc
      · exact hpart
      · exact isWordPart_of_mem_digits hcs c hc
  | octal _ hcs =>
    intro c hc
    rcases List.mem_cons.1 hc with rfl | hc
    · decide
    · exact isWordPart_of_mem_digits hcs c hc
  | zero => exact List.all_eq_true.1 (by decide)
  | decimal _ hcs => exact isWordPart_of_mem_digits hcs

/-- **A numeral is a constant wherever it stands**, in front of what no word goes on with. -/
theorem Numeral.shape (h : Numeral cs v) {after : List Char}
    (hafter : ∀ c ∈ after.head?, Token.isWordPart c = false) :
    Token.Shape [] .constant cs after := by
  obtain ⟨sign, body, n, rfl, hsign, hn⟩ : ∃ sign body n, cs = sign ++ body ∧
      (sign = [] ∨ sign = ['+'] ∨ sign = ['-']) ∧ Magnitude body n := by
    cases h with
    | unsigned hn => exact ⟨[], _, _, rfl, .inl rfl, hn⟩
    | plus hn => exact ⟨['+'], _, _, rfl, .inr (.inl rfl), hn⟩
    | minus hn => exact ⟨['-'], _, _, rfl, .inr (.inr rfl), hn⟩
  have hparts : ∀ c ∈ sign, Token.isWordPart c = true := by
    rcases hsign with rfl | rfl | rfl <;> exact List.all_eq_true.1 (by decide)
  obtain ⟨c, rest, d, rfl, hd⟩ := hn.exists_digit
  refine .constant ⟨by simp, fun c' hc => ?_, by simp, hafter⟩
    ⟨sign, c, rest, rfl, hsign, isDigit_of_isDigit hd le_rfl⟩
  rcases List.mem_append.1 hc with hc | hc
  · exact hparts c' hc
  · exact hn.parts c' hc

/-- By itself a numeral is one token. -/
theorem tokenize_of_numeral {t : String} (h : Numeral t.toList v) :
    Token.tokenize t = [⟨.constant, 0, t⟩, Token.finishAt t.utf8ByteSize] := by
  have hshape : Token.Shape [] .constant t.toList [] := h.shape (by simp)
  have hscan : Token.scan 0 ([] ++ (t.toList ++ [])) = _ := Token.scan_of_shape (by simp) hshape 0
  rw [List.nil_append, List.append_nil, String.ofList_toList] at hscan
  rw [Token.tokenize, hscan, Token.scan_of_blank (by simp), Text.byteLength_toList]
  rfl

/-! ## Constants of a type -/

theorem IntegerType.holds_iff {T : IntegerType} : T.Holds v ↔ T.least ≤ v ∧ v ≤ T.largest := by
  cases T <;> simp [Holds, least, largest, isSigned, width] <;> omega

/-- A text of fewer bytes than the limit is read as the numeral that it is, if it is one and the
type holds what it denotes. -/
theorem IntegerType.read_of_short {T : IntegerType} {t : String}
    (ht : t.utf8ByteSize < constantLimit) :
    T.read t = match readInteger? t.toList with
      | none => .error (.malformed t T.name)
      | some v => if T.Holds v then .ok v else .error (.outOfRange t T.name) := by
  have hlength : checkLength t = .ok () := by
    rw [checkLength, Text.byteLength_toList, if_neg (Nat.not_le.2 ht)]
  rw [IntegerType.read, hlength]
  simp only [holds_iff]
  rfl

theorem IntegerType.read_of_long {T : IntegerType} {t : String}
    (ht : constantLimit ≤ t.utf8ByteSize) : T.read t = .error .tooLong := by
  have hlength : checkLength t = .error .tooLong := by
    rw [checkLength, Text.byteLength_toList, if_pos ht]
  rw [IntegerType.read, hlength]
  rfl

theorem IntegerType.read_of_numeral {T : IntegerType} {t : String}
    (ht : t.utf8ByteSize < constantLimit) (h : Numeral t.toList v) :
    T.read t = if T.Holds v then .ok v else .error (.outOfRange t T.name) := by
  rw [read_of_short ht, readInteger?_eq_some_iff.2 h]

/-- What a type accepts is a numeral. -/
theorem IntegerType.numeral_of_read {T : IntegerType} {t : String} (h : T.read t = .ok v) :
    Numeral t.toList v := by
  rcases Nat.lt_or_ge t.utf8ByteSize constantLimit with ht | ht
  · rw [read_of_short ht] at h
    split at h
    · cases h
    · next w hw =>
      split at h
      · obtain rfl := Except.ok.inj h
        exact readInteger?_eq_some_iff.1 hw
      · cases h
  · rw [read_of_long ht] at h
    cases h

/-- What a type accepts is read so by every type that holds at least as much. -/
theorem IntegerType.read_of_holds_imp {T T' : IntegerType} {t : String}
    (hT : T.Holds v → T'.Holds v) (h : T.read t = .ok v) : T'.read t = .ok v := by
  have hnumeral := numeral_of_read h
  rcases Nat.lt_or_ge t.utf8ByteSize constantLimit with ht | ht
  · rw [read_of_numeral ht hnumeral] at h ⊢
    split at h
    · next hholds => exact if_pos (hT hholds)
    · cases h
  · rw [read_of_long ht] at h
    cases h

/-- **Constants of the integer types are read exactly.** A text of 64 bytes or more is too long,
whatever it says. Any other text is malformed just if it is no numeral; of a numeral the type reads
what it denotes, if it holds that, and finds it out of range otherwise, however large it is. Every
text that a type accepts is one token by itself, a constant. -/
theorem IntegerType.read_exact (T : IntegerType) (t : String) :
    (T.read t = .error .tooLong ↔ 64 ≤ t.utf8ByteSize) ∧
    (t.utf8ByteSize < 64 →
      (T.read t = .error (.malformed t T.name) ↔ ¬ ∃ v, Numeral t.toList v) ∧
      ∀ v, Numeral t.toList v →
        (∀ w, T.read t = .ok w ↔ T.Holds v ∧ w = v) ∧
        (T.read t = .error (.outOfRange t T.name) ↔ ¬ T.Holds v)) ∧
    ∀ v, T.read t = .ok v →
      Token.tokenize t = [⟨.constant, 0, t⟩, Token.finishAt t.utf8ByteSize] := by
  refine ⟨⟨fun h => ?_, fun ht => read_of_long ht⟩, fun ht => ⟨⟨?_, fun hnone => ?_⟩, ?_⟩, ?_⟩
  · by_contra ht
    rw [read_of_short (Nat.lt_of_not_le ht)] at h
    split at h
    · cases h
    · split at h <;> cases h
  · rintro h ⟨v, hv⟩
    rw [read_of_numeral ht hv] at h
    split at h <;> cases h
  · have hread : readInteger? t.toList = none := by
      by_contra hsome
      obtain ⟨v, hv⟩ := Option.ne_none_iff_exists'.1 hsome
      exact hnone ⟨v, readInteger?_eq_some_iff.1 hv⟩
    rw [read_of_short ht, hread]
  · intro v hv
    rw [read_of_numeral ht hv]
    by_cases hholds : T.Holds v
    · rw [if_pos hholds]
      refine ⟨fun w => ⟨?_, ?_⟩, ⟨fun h => ?_, fun hnot => absurd hholds hnot⟩⟩
      · intro h
        cases h
        exact ⟨hholds, rfl⟩
      · rintro ⟨-, rfl⟩
        rfl
      · cases h
    · rw [if_neg hholds]
      refine ⟨fun w => ⟨fun h => ?_, fun h => absurd h.1 hholds⟩, ⟨fun _ => hholds, fun _ => rfl⟩⟩
      cases h
  · intro v h
    exact tokenize_of_numeral (numeral_of_read h)

example : IntegerType.uint.read "-0x00" = .ok 0 := by decide +kernel

end DriverBench.Number
