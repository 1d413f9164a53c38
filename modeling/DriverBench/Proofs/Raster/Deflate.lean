import DriverBench.Raster.Deflate
/-!
# Stored data is read back

Data that is written stands in stored blocks. Reading goes through them piece by piece: the header
of the format, the heading of a block, its bytes one by one, and the checksum at the end. Each piece
leads from one stage to the next and puts its byte behind those before it, so that a whole block
adds its bytes, and all blocks add what was written.
-/

namespace DriverBench.Raster.Deflate

/-! ## Bits of numbers -/

/-- The lowest bits of a number, the lowest one first. -/
def numberBits (count n : Nat) : List Bool :=
  (List.range count).map fun i => n / Nat.pow 2 i % 2 == 1

theorem numberBits_succ (count n : Nat) :
    numberBits (count + 1) n = (n % 2 == 1) :: numberBits count (n / 2) := by
  have hshift (i : Nat) : n / Nat.pow 2 (i + 1) = n / 2 / Nat.pow 2 i := by
    rw [Nat.div_div_eq_div_mul]
    congr 1
    exact Nat.pow_succ'
  rw [numberBits, List.range_succ_eq_map, List.map_cons, List.map_map]
  congr 1
  · exact congrArg (fun m => m % 2 == 1) (Nat.div_one n)
  · refine List.map_congr_left fun i _ => ?_
    rw [Function.comp, ← hshift]

/-- A number is taken from its bits. -/
theorem takeBits_numberBits {count n : Nat} (h : n < Nat.pow 2 count) (rest : List Bool) :
    takeBits count (numberBits count n ++ rest) = .ok (n, rest) := by
  induction count generalizing n with
  | zero =>
    obtain rfl : n = 0 := by simpa using h
    rfl
  | succ count ih =>
    have hhalf : n / 2 < Nat.pow 2 count := by
      have hdouble : Nat.pow 2 (count + 1) = Nat.pow 2 count * 2 := rfl
      omega
    have hbit : (n % 2 == 1).toNat = n % 2 := by
      rcases Nat.mod_two_eq_zero_or_one n with hn | hn <;> rw [hn] <;> rfl
    rw [numberBits_succ, List.cons_append, takeBits, ih hhalf]
    change Except.ok (2 * (n / 2) + (n % 2 == 1).toNat, rest) = _
    rw [hbit, Nat.div_add_mod]

/-- Taking bits in two steps is taking them at once. -/
theorem takeBits_add {a b x y : Nat} {bits mid rest : List Bool}
    (hx : takeBits a bits = .ok (x, mid)) (hy : takeBits b mid = .ok (y, rest)) :
    takeBits (a + b) bits = .ok (x + Nat.pow 2 a * y, rest) := by
  induction a generalizing x bits with
  | zero =>
    obtain ⟨rfl, rfl⟩ := Prod.mk.inj (Except.ok.inj hx)
    rw [Nat.zero_add, hy]
    simp
  | succ a ih =>
    cases bits with
    | nil => cases hx
    | cons bit bits =>
      cases hr : takeBits a bits with
      | error e =>
        rw [takeBits, hr] at hx
        cases hx
      | ok p =>
        obtain ⟨value, mid'⟩ := p
        rw [takeBits, hr] at hx
        obtain ⟨rfl, rfl⟩ := Prod.mk.inj (Except.ok.inj hx)
        rw [Nat.succ_add, takeBits, ih hr]
        change Except.ok (2 * (value + Nat.pow 2 a * y) + bit.toNat, rest) = _
        have hdouble : Nat.pow 2 (a + 1) * y = 2 * (Nat.pow 2 a * y) := by
          rw [← Nat.mul_assoc, Nat.mul_comm 2]
          rfl
        congr 2
        omega

/-- Bits that are there can be taken. -/
theorem exists_takeBits {count : Nat} {bits : List Bool} (h : count ≤ bits.length) :
    ∃ value, takeBits count bits = .ok (value, bits.drop count) := by
  induction count generalizing bits with
  | zero => exact ⟨0, rfl⟩
  | succ count ih =>
    cases bits with
    | nil => cases h
    | cons bit bits =>
      obtain ⟨value, hvalue⟩ := ih (Nat.le_of_succ_le_succ h)
      exact ⟨2 * value + bit.toNat, by rw [takeBits, hvalue]; rfl⟩

theorem awaitBits_eq {count : Nat} {bits : List Bool} (h : count ≤ bits.length) :
    awaitBits count bits = .ok () := by
  obtain ⟨value, hvalue⟩ := exists_takeBits h
  rw [awaitBits, hvalue]
  rfl

theorem skipBits_eq {count : Nat} {bits : List Bool} (h : count ≤ bits.length) :
    skipBits count bits = .ok (bits.drop count) := by
  obtain ⟨value, hvalue⟩ := exists_takeBits h
  rw [skipBits, hvalue]
  rfl

/-! ## Bits of bytes -/

theorem bitsOf_cons (b : UInt8) (bytes : List UInt8) :
    bitsOf (b :: bytes) = numberBits 8 b.toNat ++ bitsOf bytes :=
  List.flatMap_cons

theorem length_bitsOf (bytes : List UInt8) : (bitsOf bytes).length = 8 * bytes.length := by
  induction bytes with
  | nil => rfl
  | cons b bytes ih =>
    rw [bitsOf_cons, List.length_append, ih, numberBits, List.length_map, List.length_range,
      List.length_cons]
    omega

theorem takeBits_byte (b : UInt8) (bytes : List UInt8) :
    takeBits 8 (bitsOf (b :: bytes)) = .ok (b.toNat, bitsOf bytes) := by
  rw [bitsOf_cons, takeBits_numberBits b.toNat_lt]

/-- A number of two bytes is taken from them. -/
theorem takeBits_littleEndian16 {n : Nat} (h : n < 65536) (bytes : List UInt8) :
    takeBits 16 (bitsOf (littleEndian16 n ++ bytes)) = .ok (n, bitsOf bytes) := by
  have hlow : n.toUInt8.toNat = n % 256 := UInt8.toNat_ofNat'
  have hhigh : (n / 256).toUInt8.toNat = n / 256 :=
    UInt8.toNat_ofNat_of_lt' (by simp [UInt8.size]; omega)
  have hboth := takeBits_add (takeBits_byte n.toUInt8 ((n / 256).toUInt8 :: bytes))
    (takeBits_byte (n / 256).toUInt8 bytes)
  have hvalue : n % 256 + Nat.pow 2 8 * (n / 256) = n := Nat.mod_add_div n 256
  rw [hlow, hhigh, hvalue] at hboth
  rw [littleEndian16, List.cons_append, List.singleton_append]
  exact hboth

/-- Behind a few bits of a byte the next full byte follows. -/
theorem alignBits_append {front : List Bool} (h : front.length < 8) (bytes : List UInt8) :
    alignBits (front ++ bitsOf bytes) = bitsOf bytes := by
  have hfront : (front ++ bitsOf bytes).length % 8 = front.length := by
    rw [List.length_append, length_bitsOf]
    omega
  rw [alignBits, hfront, List.drop_left]

/-! ## Pieces -/

/-- The two bytes that are written first are a header of the format. -/
theorem takeOpening_eq (bytes : List UInt8) :
    takeOpening (bitsOf (0x78 :: 0x01 :: bytes)) = .ok (bitsOf bytes) := by
  unfold takeOpening
  rw [takeBits_byte]
  dsimp only [bind, Except.bind]
  rw [takeBits_byte]
  dsimp only
  rw [if_neg (by decide), if_neg (by decide)]
  rfl

/-- The length of a stored block is given by a number and its complement. -/
theorem takeStoredLength_eq {front : List Bool} (hfront : front.length < 8) {length : Nat}
    (h : length ≤ 65535) (bytes : List UInt8) :
    takeStoredLength (front ++ bitsOf (littleEndian16 length ++
      (littleEndian16 (65535 - length) ++ bytes))) = .ok (length, bitsOf bytes) := by
  unfold takeStoredLength
  rw [alignBits_append hfront, takeBits_littleEndian16 (by omega)]
  dsimp only [bind, Except.bind]
  rw [takeBits_littleEndian16 (by omega)]
  dsimp only
  rw [if_neg (by omega)]
  rfl

/-- The first byte of a stored block tells whether the block is the last one. -/
def blockByte (last : Bool) : UInt8 :=
  if last then 1 else 0

/-- **A stored block** begins with its length. -/
theorem takeHeading_stored (last : Bool) {length : Nat} (h : length ≤ 65535)
    (bytes : List UInt8) :
    takeHeading (bitsOf (blockByte last :: (littleEndian16 length ++
      (littleEndian16 (65535 - length) ++ bytes)))) =
      .ok (.ofStored last length, bitsOf bytes) := by
  generalize htail : littleEndian16 length ++ (littleEndian16 (65535 - length) ++ bytes) = tail
  have hlength : leastBlock ≤ (bitsOf (blockByte last :: tail)).length := by
    rw [length_bitsOf, ← htail, leastBlock, littleEndian16]
    simp only [List.length_cons, List.length_append]
    omega
  have hlast : takeBits 1 (bitsOf (blockByte last :: tail)) =
      .ok (last.toNat, List.replicate 7 false ++ bitsOf tail) := by
    rw [bitsOf_cons]
    cases last <;> rfl
  have hkind : takeBits 2 (List.replicate 7 false ++ bitsOf tail) =
      .ok (0, List.replicate 5 false ++ bitsOf tail) := rfl
  unfold takeHeading
  rw [awaitBits_eq hlength]
  dsimp only [bind, Except.bind]
  rw [hlast]
  dsimp only
  rw [hkind]
  dsimp only
  rw [← htail, takeStoredLength_eq (by simp) h]
  cases last <;> rfl

/-! ## Steps of a reading -/

section Run

variable {limit : Nat} {out : Array UInt8}

/-- A reading goes on behind a piece without an item. -/
theorem run_of_take {stage : Stage} {bits : List Bool} {piece : Piece} (steps : Nat)
    (h : stage.take ((Reading.mk stage bits out).isFull limit) bits = .ok piece)
    (hitem : piece.item = none) :
    Reading.run limit (steps + 1) ⟨stage, bits, out⟩ =
      Reading.run limit steps ⟨piece.stage, piece.bits, out⟩ := by
  rw [Reading.run]
  dsimp only
  rw [h]
  dsimp only
  rw [Reading.behind, hitem]
  rfl

/-- A byte of a stored block is put behind the bytes before it, if there is room. -/
theorem run_stored_byte (hroom : out.size < limit) (last : Bool) (left steps : Nat) (b : UInt8)
    (bytes : List UInt8) :
    Reading.run limit (steps + 1) ⟨.ofStored last (left + 1), bitsOf (b :: bytes), out⟩ =
      Reading.run limit steps ⟨.ofStored last left, bitsOf bytes, out.push b⟩ := by
  have htake : (Stage.stored last (left + 1)).take false (bitsOf (b :: bytes)) =
      .ok { item := some (.literals [b]), stage := .ofStored last left, bits := bitsOf bytes } := by
    unfold Stage.take
    dsimp only
    rw [takeBits_byte]
    change Except.ok (Piece.mk (some (.literals [b.toNat.toUInt8])) _ _) = _
    rw [Nat.toUInt8, UInt8.ofNat_toNat]
    rfl
  have hfull : (Reading.mk (.stored last (left + 1)) (bitsOf (b :: bytes)) out).isFull limit =
      false := decide_eq_false (Nat.not_le.2 hroom)
  rw [Stage.ofStored, if_neg (Nat.succ_ne_zero left), Reading.run, hfull]
  dsimp only
  rw [htake]
  dsimp only
  obtain ⟨room, hlimit⟩ : ∃ room, limit - out.size = room + 1 := ⟨limit - out.size - 1, by omega⟩
  rw [Reading.behind]
  dsimp only
  rw [hlimit, if_neg (by simp [Item.length]), Item.appendTo]
  simp

/-- **The bytes of a stored block** are read one by one. -/
theorem run_stored (last : Bool) {bytes : List UInt8} (hroom : out.size + bytes.length ≤ limit)
    (steps : Nat) (rest : List UInt8) :
    Reading.run limit (bytes.length + steps)
        ⟨.ofStored last bytes.length, bitsOf (bytes ++ rest), out⟩ =
      Reading.run limit steps ⟨.behindBlock last, bitsOf rest, out ++ bytes.toArray⟩ := by
  induction bytes generalizing out with
  | nil =>
    rw [List.length_nil, Nat.zero_add, Stage.ofStored, if_pos rfl, List.nil_append]
    simp
  | cons b bytes ih =>
    rw [List.length_cons] at hroom ⊢
    have hroom' : (out.push b).size + bytes.length ≤ limit := by
      rw [Array.size_push]
      omega
    have hsteps : bytes.length + 1 + steps = bytes.length + steps + 1 := by omega
    rw [hsteps, List.cons_append, run_stored_byte (by omega), ih hroom']
    simp

/-- **A stored block** adds its bytes. -/
theorem run_block (last : Bool) {bytes : List UInt8} (hlength : bytes.length ≤ 65535)
    (hroom : out.size + bytes.length ≤ limit) (steps : Nat) (rest : List UInt8) :
    Reading.run limit (bytes.length + steps + 1)
        ⟨.heading, bitsOf (blockByte last :: (littleEndian16 bytes.length ++
          (littleEndian16 (65535 - bytes.length) ++ (bytes ++ rest)))), out⟩ =
      Reading.run limit steps ⟨.behindBlock last, bitsOf rest, out ++ bytes.toArray⟩ := by
  have htake (full : Bool) : Stage.heading.take full (bitsOf (blockByte last ::
      (littleEndian16 bytes.length ++ (littleEndian16 (65535 - bytes.length) ++
        (bytes ++ rest))))) =
      .ok { stage := .ofStored last bytes.length, bits := bitsOf (bytes ++ rest) } := by
    unfold Stage.take
    dsimp only
    rw [takeHeading_stored last hlength]
    rfl
  rw [run_of_take _ (htake _) rfl]
  exact run_stored last hroom steps rest

/-- **Stored blocks** add their bytes up to the end of the last one. A step is for a byte at least,
so that there are no more steps than bytes. -/
theorem run_storedBlocks {bytes : List UInt8} (hroom : out.size + bytes.length ≤ limit)
    (rest : List UInt8) :
    ∃ count ≤ (storedBlocks bytes).length, ∀ steps,
      Reading.run limit (count + steps) ⟨.heading, bitsOf (storedBlocks bytes ++ rest), out⟩ =
        Reading.run limit steps ⟨.checksum, bitsOf rest, out ++ bytes.toArray⟩ := by
  fun_induction storedBlocks bytes generalizing out with
  | case1 bytes hmore ih =>
    have hfirst : (bytes.take storedLimit).length = storedLimit :=
      List.length_take_of_le (Nat.le_of_lt hmore)
    have hrest : (out ++ (bytes.take storedLimit).toArray).size +
        (bytes.drop storedLimit).length ≤ limit := by
      have hsize : (bytes.take storedLimit).toArray.size = storedLimit := hfirst
      rw [Array.size_append, hsize, List.length_drop]
      omega
    obtain ⟨count, hcount, hrun⟩ := ih hrest
    -- One step for the heading, one for each byte, and those of the blocks behind.
    refine ⟨storedLimit + count + 1, ?_, fun steps => ?_⟩
    · simp only [List.length_append, List.length_cons, hfirst]
      omega
    · have hfits : out.size + (bytes.take storedLimit).length ≤ limit := by omega
      have hblock := run_block false (Nat.le_of_eq hfirst) hfits (count + steps)
        (storedBlocks (bytes.drop storedLimit) ++ rest)
      have hsteps : storedLimit + count + 1 + steps = storedLimit + (count + steps) + 1 := by omega
      rw [hfirst] at hblock
      simp only [List.cons_append, List.append_assoc]
      rw [hsteps]
      refine hblock.trans ((hrun steps).trans ?_)
      have hwhole : (bytes.take storedLimit).toArray ++ (bytes.drop storedLimit).toArray =
          bytes.toArray := by
        rw [List.append_toArray, List.take_append_drop]
      rw [Array.append_assoc, hwhole]
  | case2 bytes hlast =>
    have hlength : bytes.length ≤ 65535 := Nat.le_of_not_lt hlast
    refine ⟨bytes.length + 1, ?_, fun steps => ?_⟩
    · simp only [List.length_append, List.length_cons]
      omega
    · have hblock := run_block true hlength hroom steps rest
      have hsteps : bytes.length + 1 + steps = bytes.length + steps + 1 := by omega
      simp only [List.cons_append, List.append_assoc]
      rw [hsteps]
      exact hblock

end Run

/-- Behind the checksum reading is over. -/
theorem run_checksum (limit steps : Nat) (out : Array UInt8) {bytes : List UInt8}
    (h : bytes.length = 4) :
    Reading.run limit (steps + 1) ⟨.checksum, bitsOf bytes, out⟩ = some ⟨.finished, [], out⟩ := by
  have hbits : (bitsOf bytes).length = 32 := by rw [length_bitsOf, h]
  have hskip : skipBits 32 (alignBits (bitsOf bytes)) = .ok [] := by
    have halign : alignBits ([] ++ bitsOf bytes) = bitsOf bytes :=
      alignBits_append (by decide) bytes
    rw [List.nil_append] at halign
    rw [halign, skipBits_eq (Nat.le_of_eq hbits.symm), ← hbits, List.drop_length]
  have htake (full : Bool) : Stage.checksum.take full (bitsOf bytes) =
      .ok { stage := .finished, bits := [] } := by
    unfold Stage.take
    dsimp only
    rw [hskip]
    rfl
  rw [run_of_take _ (htake _) rfl]
  cases steps <;> rfl

/-! ## Data that is written -/

/-- A stored block takes five bytes more than it holds, and only the last one is not full. -/
theorem length_storedBlocks_le (bytes : List UInt8) :
    2 * (storedBlocks bytes).length ≤ 3 * bytes.length + 10 := by
  have hlimit : storedLimit = 65535 := rfl
  fun_induction storedBlocks bytes with
  | case1 bytes hmore ih =>
    have hfirst : (bytes.take storedLimit).length = storedLimit :=
      List.length_take_of_le (Nat.le_of_lt hmore)
    have hlength : (0 :: littleEndian16 storedLimit ++ littleEndian16 0 ++ bytes.take storedLimit ++
        storedBlocks (bytes.drop storedLimit)).length =
        5 + storedLimit + (storedBlocks (bytes.drop storedLimit)).length := by
      rw [List.length_append, List.length_append, hfirst]
      rfl
    rw [List.length_drop] at ih
    omega
  | case2 bytes hlast =>
    have hlength : (1 :: littleEndian16 bytes.length ++
        littleEndian16 (storedLimit - bytes.length) ++ bytes).length = 5 + bytes.length := by
      rw [List.length_append]
      rfl
    omega

theorem length_write (bytes : List UInt8) :
    (write bytes).length = (storedBlocks bytes).length + 6 := by
  rw [write, List.length_append, List.length_append]
  exact Nat.add_right_comm 2 _ 4 |>.trans (Nat.add_comm _ _)

/-- **Data that is written** is read back, where as much is wanted. -/
theorem read_write {limit : Nat} {bytes : List UInt8} (h : bytes.length ≤ limit) :
    read limit [write bytes] = some bytes := by
  have hroom : (#[] : Array UInt8).size + bytes.length ≤ limit := by simpa using h
  obtain ⟨count, hcount, hblocks⟩ :=
    run_storedBlocks hroom (bigEndian32 (adler32 bytes))
  have hwrite : write bytes =
      0x78 :: 0x01 :: (storedBlocks bytes ++ bigEndian32 (adler32 bytes)) := rfl
  have htake (full : Bool) : Stage.opening.take full (bitsOf (write bytes)) =
      .ok { stage := .heading,
            bits := bitsOf (storedBlocks bytes ++ bigEndian32 (adler32 bytes)) } := by
    unfold Stage.take
    dsimp only
    rw [hwrite, takeOpening_eq]
    rfl
  have hlength : (bitsOf (write bytes)).length = 8 * ((storedBlocks bytes).length + 6) := by
    rw [length_bitsOf, length_write]
  obtain ⟨steps, hsteps⟩ : ∃ steps, (bitsOf (write bytes)).length = count + (steps + 1) :=
    ⟨(bitsOf (write bytes)).length - count - 1, by omega⟩
  have hfeed : Reading.feed limit {} (write bytes) = some ⟨.finished, [], bytes.toArray⟩ := by
    unfold Reading.feed
    dsimp only
    rw [List.nil_append, hsteps, run_of_take _ (htake _) rfl]
    refine (hblocks _).trans ((run_checksum _ _ _ rfl).trans ?_)
    rw [Array.empty_append]
  rw [read, Reading.feedAll, hfeed]
  rfl

end DriverBench.Raster.Deflate
