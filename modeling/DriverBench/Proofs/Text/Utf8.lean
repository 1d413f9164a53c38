import DriverBench.Text.Utf8
/-!
# A text is read back from its bytes

The bytes of a text fall into pieces just as the text falls into characters, so that lenient reading
gives the text back. A character of several bytes comes back for two reasons: its first two bytes
stay clear of the forms that reading takes to be broken, and the six bits of each later byte are put
together to the number that they were cut from.
-/

namespace DriverBench.Text

/-! ## Bytes that carry bits -/

/-- A byte that carries six bits of a number. -/
def carrier (n : Nat) : UInt8 :=
  UInt8.ofNat (n % 64 + 0x80)

theorem toNat_carrier (n : Nat) : (carrier n).toNat = n % 64 + 0x80 :=
  UInt8.toNat_ofNat_of_lt' (by simp [UInt8.size]; omega)

theorem le_carrier_iff {low : UInt8} {n : Nat} : low ≤ carrier n ↔ low.toNat ≤ n % 64 + 0x80 := by
  rw [UInt8.le_iff_toNat_le, toNat_carrier]

theorem carrier_le_iff {high : UInt8} {n : Nat} :
    carrier n ≤ high ↔ n % 64 + 0x80 ≤ high.toNat := by
  rw [UInt8.le_iff_toNat_le, toNat_carrier]

/-- The bits of a carrier are put behind those that were read before. -/
theorem takeContinuations_carrier (n acc v : Nat) (rest : List UInt8) :
    takeContinuations (n + 1) acc (carrier v :: rest) =
      takeContinuations n (acc * 64 + v % 64) rest := by
  have hlow : (0x80 : UInt8) ≤ carrier v := le_carrier_iff.2 (Nat.le_add_left _ _)
  have hhigh : carrier v ≤ 0xBF := carrier_le_iff.2 (by
    change v % 64 + 128 ≤ 191
    omega)
  rw [takeContinuations, isContinuation, if_pos (by simp [hlow, hhigh]), toNat_carrier,
    Nat.add_sub_cancel]

/-- A byte that begins a character of several bytes: how many follow the second one, the top of the
number that it carries, and the range of the second byte. -/
def Leads (b : UInt8) (more top : Nat) (low high : UInt8) : Prop :=
  ¬ b < 0x80 ∧ b.toNat % Nat.pow 2 (6 - (more + 1)) = top ∧ leadOf b = some (more + 1, low, high)

theorem leads_two : ∀ top < 32, 2 ≤ top → Leads (UInt8.ofNat (top + 0xC0)) 0 top 0x80 0xBF := by
  unfold Leads
  decide

/-- The second of three bytes is where the number takes three bytes and is no surrogate. -/
theorem leads_three : ∀ top < 16,
    Leads (UInt8.ofNat (top + 0xE0)) 1 top (if top = 0 then 0xA0 else 0x80)
      (if top = 13 then 0x9F else 0xBF) := by
  unfold Leads
  decide

/-- The second of four bytes is where the number takes four bytes and is that of a character. -/
theorem leads_four : ∀ top < 5,
    Leads (UInt8.ofNat (top + 0xF0)) 2 top (if top = 0 then 0x90 else 0x80)
      (if top = 4 then 0x8F else 0xBF) := by
  unfold Leads
  decide

/-! ## Pieces of a text -/

/-- The piece of a first byte and a second one that goes with it. -/
theorem Leads.nextPiece {b low high : UInt8} {more v top : Nat} (h : Leads b more top low high)
    (tail : List UInt8) (hlow : low.toNat ≤ v % 64 + 0x80) (hhigh : v % 64 + 0x80 ≤ high.toNat) :
    Text.nextPiece b (carrier v :: tail) =
      (pieceOfValue (takeContinuations more (top * 64 + v % 64) tail).1,
        (takeContinuations more (top * 64 + v % 64) tail).2) := by
  obtain ⟨hascii, htop, hlead⟩ := h
  have hsecond : (low ≤ carrier v && carrier v ≤ high) = true := by
    simp only [Bool.and_eq_true, decide_eq_true_eq]
    exact ⟨le_carrier_iff.2 hlow, carrier_le_iff.2 hhigh⟩
  unfold Text.nextPiece
  rw [if_neg hascii, hlead]
  dsimp only
  rw [if_pos hsecond, htop, toNat_carrier, Nat.add_sub_cancel (v % 64), Nat.add_sub_cancel]

/-- The bytes of a character: its number alone, or the top of it and six bits a byte. -/
theorem encode_char (c : Char) :
    String.utf8EncodeChar c =
      if c.toNat ≤ 0x7F then [UInt8.ofNat c.toNat]
      else if c.toNat ≤ 0x7FF then [UInt8.ofNat (c.toNat / 64 % 32 + 0xC0), carrier c.toNat]
      else if c.toNat ≤ 0xFFFF then
        [UInt8.ofNat (c.toNat / 4096 % 16 + 0xE0), carrier (c.toNat / 64), carrier c.toNat]
      else
        [UInt8.ofNat (c.toNat / 262144 % 8 + 0xF0), carrier (c.toNat / 4096),
          carrier (c.toNat / 64), carrier c.toNat] :=
  rfl

theorem encode_cons (c : Char) (cs : List Char) :
    encode (c :: cs) = String.utf8EncodeChar c ++ encode cs := rfl

theorem encode_append (a b : List Char) : encode (a ++ b) = encode a ++ encode b :=
  List.flatMap_append

/-- A text has as many bytes as were counted. -/
theorem length_encode (cs : List Char) : (encode cs).length = byteLength cs := by
  induction cs with
  | nil => rfl
  | cons c cs ih => rw [encode_cons, List.length_append, String.length_utf8EncodeChar, ih,
      byteLength_cons]

/-- The bytes of the first part of a text. -/
theorem getElem?_encode_append_left {front : List Char} (back : List Char) {i : Nat}
    (h : i < byteLength front) : (encode (front ++ back))[i]? = (encode front)[i]? := by
  rw [encode_append, List.getElem?_append_left (by rwa [length_encode])]

/-- The bytes of the other part come behind as many. -/
theorem getElem?_encode_append (front back : List Char) (i : Nat) :
    (encode (front ++ back))[byteLength front + i]? = (encode back)[i]? := by
  rw [encode_append, ← length_encode, List.getElem?_append_right (Nat.le_add_right _ _),
    Nat.add_sub_cancel_left]

/-- A character of ASCII is a byte of its own. -/
theorem encode_char_of_lt {c : Char} (h : c.toNat < 0x80) :
    String.utf8EncodeChar c = [UInt8.ofNat c.toNat] := by
  rw [encode_char, if_pos (Nat.le_of_lt_succ h)]

/-- No byte of another character is one of ASCII. -/
theorem le_of_mem_encode_char {c : Char} (h : 0x80 ≤ c.toNat) {b : UInt8}
    (hb : b ∈ String.utf8EncodeChar c) : 0x80 ≤ b := by
  have hcarrier : ∀ n, (0x80 : UInt8) ≤ carrier n := fun n =>
    le_carrier_iff.2 (Nat.le_add_left _ _)
  have hlead : ∀ n, 0x80 ≤ n → n < 0x100 → (0x80 : UInt8) ≤ UInt8.ofNat n := by
    intro n hn hlt
    rw [UInt8.le_iff_toNat_le, UInt8.toNat_ofNat_of_lt' hlt]
    exact hn
  rw [encode_char, if_neg (by omega)] at hb
  split at hb
  · simp only [List.mem_cons, List.not_mem_nil, or_false] at hb
    rcases hb with rfl | rfl
    · exact hlead _ (by omega) (by omega)
    · exact hcarrier _
  split at hb
  · simp only [List.mem_cons, List.not_mem_nil, or_false] at hb
    rcases hb with rfl | rfl | rfl
    · exact hlead _ (by omega) (by omega)
    · exact hcarrier _
    · exact hcarrier _
  · simp only [List.mem_cons, List.not_mem_nil, or_false] at hb
    rcases hb with rfl | rfl | rfl | rfl
    · exact hlead _ (by omega) (by omega)
    · exact hcarrier _
    · exact hcarrier _
    · exact hcarrier _

/-- A character is a byte of its own in ASCII and otherwise has only bytes that are not of ASCII. -/
theorem encode_char_cases (c : Char) : ∃ b tail, String.utf8EncodeChar c = b :: tail ∧
    (c.toNat < 0x80 ∧ b = UInt8.ofNat c.toNat ∧ tail = [] ∨
      0x80 ≤ c.toNat ∧ ∀ d ∈ b :: tail, 0x80 ≤ d) := by
  rcases Nat.lt_or_ge c.toNat 0x80 with h | h
  · exact ⟨_, [], encode_char_of_lt h, .inl ⟨h, rfl, rfl⟩⟩
  · have hpos : 0 < (String.utf8EncodeChar c).length := by
      rw [String.length_utf8EncodeChar]
      exact Char.utf8Size_pos c
    obtain ⟨b, tail, hb⟩ := List.exists_cons_of_length_pos hpos
    exact ⟨b, tail, hb, .inr ⟨h, fun d hd => le_of_mem_encode_char h (by rwa [hb])⟩⟩

/-- A class of bytes stands for a class of characters, all of them of ASCII. -/
structure Reads (p : UInt8 → Bool) (q : Char → Bool) : Prop where
  ascii : ∀ n < 0x80, p (UInt8.ofNat n) = q (Char.ofNat n)
  byte : ∀ n < 0x100, 0x80 ≤ n → p (UInt8.ofNat n) = false
  char : ∀ c : Char, q c = true → c.toNat < 0x80

namespace Reads

variable {p : UInt8 → Bool} {q : Char → Bool}

theorem eq_false (h : Reads p q) {b : UInt8} (hb : 0x80 ≤ b) : p b = false := by
  have hn := h.byte b.toNat b.toNat_lt (UInt8.le_iff_toNat_le.1 hb)
  rwa [UInt8.ofNat_toNat] at hn

/-- The first byte of a character is in the one class just if the character is in the other. -/
theorem first (h : Reads p q) {c : Char} {b : UInt8} {tail : List UInt8}
    (hc : String.utf8EncodeChar c = b :: tail) : p b = q c ∧ (q c = true → tail = []) := by
  obtain ⟨b', tail', hc', hcases⟩ := encode_char_cases c
  obtain ⟨rfl, rfl⟩ := List.cons.inj (hc.symm.trans hc')
  rcases hcases with ⟨hlt, rfl, rfl⟩ | ⟨hge, hall⟩
  · have heq := h.ascii c.toNat hlt
    rw [Char.ofNat_toNat] at heq
    exact ⟨heq, fun _ => rfl⟩
  · have hq : q c = false := Bool.eq_false_iff.2 fun hc => by
      have hlt := h.char c hc
      omega
    rw [hq, h.eq_false (hall b List.mem_cons_self)]
    exact ⟨rfl, fun hne => by cases hne⟩

end Reads

/-- **A character** is the piece at the front of its bytes, whatever follows them. -/
theorem nextPiece_encode (c : Char) (rest : List UInt8) :
    ∃ b tail, String.utf8EncodeChar c ++ rest = b :: tail ∧
      nextPiece b tail = (.scalar c, rest) := by
  have hvalid : c.toNat < 0xD800 ∨ 0xDFFF < c.toNat ∧ c.toNat < 0x110000 := c.valid
  have hchar : pieceOfValue (some c.toNat) = .scalar c := congrArg _ (Char.ofNat_toNat c)
  rw [encode_char]
  generalize c.toNat = v at *
  -- The number is put together again from its top and six bits at a time.
  have hlast : v / 64 * 64 + v % 64 = v := Nat.div_add_mod' _ _
  have hmiddle : v / 4096 * 64 + v / 64 % 64 = v / 64 := by omega
  have hfirst : v / 262144 * 64 + v / 4096 % 64 = v / 4096 := by omega
  split
  · next h =>
    have htoNat : (UInt8.ofNat v).toNat = v :=
      UInt8.toNat_ofNat_of_lt' (by simp [UInt8.size]; omega)
    have hascii : UInt8.ofNat v < 0x80 := by
      rw [UInt8.lt_iff_toNat_lt, htoNat]
      exact Nat.lt_succ_of_le h
    refine ⟨_, _, rfl, ?_⟩
    unfold nextPiece
    rw [if_pos hascii, htoNat, ← hchar]
    rfl
  split
  · have htop : v / 64 % 32 = v / 64 := by omega
    refine ⟨_, carrier v :: rest, rfl, ?_⟩
    rw [htop]
    refine ((leads_two (v / 64) (by omega) (by omega)).nextPiece _ ?_ ?_).trans ?_
    · exact Nat.le_add_left _ _
    · change _ ≤ 191
      omega
    · rw [hlast, ← hchar]
      rfl
  split
  · have htop : v / 4096 % 16 = v / 4096 := by omega
    refine ⟨_, carrier (v / 64) :: carrier v :: rest, rfl, ?_⟩
    rw [htop]
    refine ((leads_three (v / 4096) (by omega)).nextPiece _ ?_ ?_).trans ?_
    · split
      · change 160 ≤ _
        omega
      · exact Nat.le_add_left _ _
    · split
      · change _ ≤ 159
        omega
      · change _ ≤ 191
        omega
    · rw [hmiddle, takeContinuations_carrier, hlast, ← hchar]
      rfl
  · have htop : v / 262144 % 8 = v / 262144 := by omega
    refine ⟨_, carrier (v / 4096) :: carrier (v / 64) :: carrier v :: rest, rfl, ?_⟩
    rw [htop]
    refine ((leads_four (v / 262144) (by omega)).nextPiece _ ?_ ?_).trans ?_
    · split
      · change 144 ≤ _
        omega
      · exact Nat.le_add_left _ _
    · split
      · change _ ≤ 143
        omega
      · change _ ≤ 191
        omega
    · rw [hfirst, takeContinuations_carrier, hmiddle, takeContinuations_carrier, hlast, ← hchar]
      rfl

theorem pieces_encode (cs : List Char) : pieces (encode cs) = cs.map .scalar := by
  induction cs with
  | nil => rw [encode, List.flatMap_nil, pieces, List.map_nil]
  | cons c cs ih =>
    obtain ⟨b, tail, hbytes, hpiece⟩ := nextPiece_encode c (encode cs)
    rw [encode, List.flatMap_cons]
    change pieces (String.utf8EncodeChar c ++ encode cs) = _
    rw [hbytes, pieces, hpiece, ih, List.map_cons]

/-- **A text** is what its bytes are read as. -/
theorem decodeLenient_encode (cs : List Char) : decodeLenient (encode cs) = cs := by
  rw [decodeLenient, pieces_encode, List.map_map]
  exact List.map_id cs

/-- A string is what its bytes are read as. -/
theorem decodeLenient_bytesOf (s : String) : String.ofList (decodeLenient (bytesOf s)) = s := by
  rw [bytesOf, decodeLenient_encode, String.ofList_toList]

end DriverBench.Text
