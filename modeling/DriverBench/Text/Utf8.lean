/-!
# Text as UTF-8

A text is a list of characters; files and devices hold bytes. This module measures a text in
bytes, writes it as bytes and reads bytes back. Reading cuts the bytes into *pieces*: characters,
and the longest broken beginnings of characters. A broken piece makes strict reading fail and
becomes one replacement character in lenient reading.
-/

namespace DriverBench.Text

/-- The number of bytes that a text takes in UTF-8. -/
def byteLength : List Char → Nat
  | [] => 0
  | c :: cs => c.utf8Size + byteLength cs

@[simp] theorem byteLength_nil : byteLength [] = 0 := rfl

@[simp] theorem byteLength_cons (c : Char) (cs : List Char) :
    byteLength (c :: cs) = c.utf8Size + byteLength cs := rfl

@[simp] theorem byteLength_append (a b : List Char) :
    byteLength (a ++ b) = byteLength a + byteLength b := by
  induction a with
  | nil => simp
  | cons c a ih => simp [ih, Nat.add_assoc]

/-- What is left of a text after its first `n` bytes; a character that is cut counts as dropped. -/
def dropBytes : Nat → List Char → List Char
  | 0, cs => cs
  | _, [] => []
  | n + 1, c :: cs => dropBytes (n + 1 - c.utf8Size) cs
termination_by _ cs => cs.length

@[simp] theorem dropBytes_zero (cs : List Char) : dropBytes 0 cs = cs := by
  cases cs <;> simp [dropBytes]

/-- Dropping the bytes of a beginning leaves the rest. -/
theorem dropBytes_byteLength_append (a b : List Char) : dropBytes (byteLength a) (a ++ b) = b := by
  induction a with
  | nil => simp
  | cons c a ih =>
    have h := Char.utf8Size_pos c
    obtain ⟨n, hn⟩ : ∃ n, c.utf8Size + byteLength a = n + 1 :=
      ⟨c.utf8Size + byteLength a - 1, by omega⟩
    rw [byteLength_cons, List.cons_append, hn, dropBytes, ← hn, Nat.add_sub_cancel_left, ih]

/-- The bytes of a text. -/
def encode (cs : List Char) : List UInt8 :=
  cs.flatMap String.utf8EncodeChar

/-- The bytes of a string. -/
def bytesOf (s : String) : List UInt8 :=
  encode s.toList

/-- What stands at some place of a byte sequence: a character, or bytes that begin none. -/
inductive Piece where
  | scalar (c : Char)
  | broken
  deriving DecidableEq, Repr

/-- A byte that continues a character. -/
def isContinuation (b : UInt8) : Bool :=
  0x80 ≤ b && b ≤ 0xBF

/-- The bytes that may follow the first byte `b` of a character of two or more bytes, and how many
bytes follow in all. The range of the second byte is narrower than that of the later ones where a
longer form than needed, a surrogate or a number beyond the last code point would begin. -/
def leadOf (b : UInt8) : Option (Nat × UInt8 × UInt8) :=
  if 0xC2 ≤ b && b ≤ 0xDF then some (1, 0x80, 0xBF)
  else if b == 0xE0 then some (2, 0xA0, 0xBF)
  else if b == 0xED then some (2, 0x80, 0x9F)
  else if 0xE1 ≤ b && b ≤ 0xEF then some (2, 0x80, 0xBF)
  else if b == 0xF0 then some (3, 0x90, 0xBF)
  else if 0xF1 ≤ b && b ≤ 0xF3 then some (3, 0x80, 0xBF)
  else if b == 0xF4 then some (3, 0x80, 0x8F)
  else none

/-- Reads up to `n` continuation bytes onto the value `acc`; the value is absent when fewer
follow. The rest starts at the first byte not read. -/
def takeContinuations : Nat → Nat → List UInt8 → Option Nat × List UInt8
  | 0, acc, rest => (some acc, rest)
  | n + 1, acc, b :: rest =>
    if isContinuation b then takeContinuations n (acc * 64 + (b.toNat - 0x80)) rest
    else (none, b :: rest)
  | _ + 1, _, [] => (none, [])

theorem takeContinuations_length_le (n acc : Nat) (bs : List UInt8) :
    (takeContinuations n acc bs).2.length ≤ bs.length := by
  induction n generalizing acc bs with
  | zero => simp [takeContinuations]
  | succ n ih =>
    cases bs with
    | nil => simp [takeContinuations]
    | cons b rest =>
      simp only [takeContinuations]
      split
      · exact Nat.le_trans (ih _ _) (Nat.le_succ _)
      · simp

/-- The piece that a value read from continuation bytes amounts to. -/
def pieceOfValue : Option Nat → Piece
  | some value => .scalar (Char.ofNat value)
  | none => .broken

/-- The piece that starts with the byte `b`, and what follows it. -/
def nextPiece (b : UInt8) (rest : List UInt8) : Piece × List UInt8 :=
  if b < 0x80 then (.scalar (Char.ofNat b.toNat), rest)
  else
    match leadOf b, rest with
    | some (more, low, high), second :: tail =>
      if low ≤ second && second ≤ high then
        let read := takeContinuations (more - 1)
          (b.toNat % Nat.pow 2 (6 - more) * 64 + (second.toNat - 0x80)) tail
        (pieceOfValue read.1, read.2)
      else (.broken, rest)
    | _, _ => (.broken, rest)

theorem nextPiece_length_le (b : UInt8) (rest : List UInt8) :
    (nextPiece b rest).2.length ≤ rest.length := by
  unfold nextPiece
  split
  · simp
  · split
    · split
      · exact Nat.le_trans (takeContinuations_length_le ..) (Nat.le_succ _)
      · simp
    · simp

/-- The pieces of a byte sequence, in order. -/
def pieces : List UInt8 → List Piece
  | [] => []
  | b :: rest => (nextPiece b rest).1 :: pieces (nextPiece b rest).2
termination_by bs => bs.length
decreasing_by
  have := nextPiece_length_le b rest
  simp only [List.length_cons]
  omega

/-- The text that bytes denote, or nothing when some of them are broken. -/
def decode? (bytes : List UInt8) : Option (List Char) :=
  (pieces bytes).mapM fun
    | .scalar c => some c
    | .broken => none

/-- The text that bytes denote, with a replacement character for each broken piece. -/
def decodeLenient (bytes : List UInt8) : List Char :=
  (pieces bytes).map fun
    | .scalar c => c
    | .broken => '\ufffd'

end DriverBench.Text
