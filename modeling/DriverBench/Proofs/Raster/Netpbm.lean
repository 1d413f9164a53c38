import DriverBench.Proofs.Raster.Pixels
import DriverBench.Proofs.Text.Utf8
import DriverBench.Raster.Netpbm
/-!
# Graymaps and pixmaps come back from their files

The header that is written holds three numbers in decimal digits. Each of them is read up to the
space behind it, and what follows the header is the samples, which are as many as the numbers say
and are not scaled.
-/

namespace DriverBench.Raster.Netpbm

open Device

/-! ## Numbers in a header -/

/-- The decimal digits of a number, as bytes. -/
def decimal (n : Nat) : List UInt8 :=
  (Nat.toDigits 10 n).map byte

/-- The number of a decimal digit is one of ten. -/
theorem exists_toNat_eq {c : Char} (h : c.isDigit = true) : ∃ d < 10, c.toNat = 48 + d := by
  have hrange : 48 ≤ c.toNat ∧ c.toNat ≤ 57 := by
    simpa [Char.isDigit, UInt32.le_iff_toNat_le] using h
  exact ⟨c.toNat - 48, by omega, by omega⟩

/-- The byte of a digit is shown in a header, and does not end a word. -/
theorem byte_of_digit {c : Char} (h : c.isDigit = true) :
    (byte c).toNat = c.toNat ∧ (byte c != byte '#') = true ∧ isSpace (byte c) = false ∧
      ¬ 128 ≤ byte c := by
  obtain ⟨d, hd, hc⟩ := exists_toNat_eq h
  have hbytes : ∀ d < 10, ((48 + d).toUInt8).toNat = 48 + d ∧
      ((48 + d).toUInt8 != byte '#') = true ∧ isSpace (48 + d).toUInt8 = false ∧
      ¬ (128 : UInt8) ≤ (48 + d).toUInt8 := by
    decide
  rw [byte, hc]
  exact hbytes d hd

theorem isDigit_of_mem {n : Nat} {c : Char} (h : c ∈ Nat.toDigits 10 n) : c.isDigit = true :=
  Nat.isDigit_of_mem_toDigits (by decide) (by decide) h

/-- A word of digits is read up to the space behind it. -/
theorem headerWord_digits {digits : List Char} (hdigits : ∀ c ∈ digits, c.isDigit = true)
    {word : List UInt8} (hword : word ≠ [] ∨ digits ≠ []) {stop : UInt8}
    (hstop : isSpace stop = true) (rest : List UInt8) :
    headerWord true word (digits.map byte ++ stop :: rest) =
      .ok (word.reverse ++ digits.map byte, rest) := by
  induction digits generalizing word with
  | nil =>
    have hshown : (true && stop != byte '#') = true := by
      rw [Bool.true_and, bne_iff_ne]
      rintro rfl
      exact absurd hstop (by decide)
    have hempty : word.isEmpty = false := by simpa using hword
    rw [List.map_nil, List.nil_append, headerWord, if_pos hshown, if_pos hstop, hempty]
    simp
  | cons c digits ih =>
    obtain ⟨-, hshown, hspace, hascii⟩ := byte_of_digit (hdigits c List.mem_cons_self)
    rw [List.map_cons, List.cons_append, headerWord, if_pos (by rw [hshown]; rfl),
      if_neg (by rw [hspace]; decide), if_neg hascii,
      ih (fun c' h => hdigits c' (List.mem_cons_of_mem _ h)) (.inl (by simp)), List.reverse_cons,
      List.append_assoc, List.singleton_append]

theorem asciiText_decimal (n : Nat) : asciiText (decimal n) = Nat.toDigits 10 n := by
  rw [asciiText, decimal, List.map_map]
  refine (List.map_congr_left fun c hc => ?_).trans (List.map_id _)
  rw [Function.comp, (byte_of_digit (isDigit_of_mem hc)).1, Char.ofNat_toNat, id]

/-- The digits of a number are read as that number. -/
theorem readNumber_toDigits {bound n : Nat} (h : n < bound) :
    readNumber bound (Nat.toDigits 10 n) = .ok n := by
  have hvalue : (Nat.toDigits 10 n).foldl (fun n d => n * 10 + (d.toNat - '0'.toNat)) 0 = n := by
    simp only [Nat.mul_comm _ 10]
    exact Nat.ofDigitChars_ten_toDigits
  have hdigits : (Nat.toDigits 10 n).all Char.isDigit = true :=
    List.all_eq_true.2 fun c hc => isDigit_of_mem hc
  have hempty : (Nat.toDigits 10 n).isEmpty = false := by simp [Nat.toDigits_ne_nil]
  unfold readNumber
  dsimp only
  rw [hvalue, hdigits, hempty, if_pos (by simp [h])]

/-- **A number of a header** is read from its digits, with a space behind them. -/
theorem headerNumber_decimal {n : Nat} (h : n < headerBound) {stop : UInt8}
    (hstop : isSpace stop = true) (rest : List UInt8) :
    headerNumber (decimal n ++ stop :: rest) = .ok (n, rest) := by
  have hword : headerWord true [] ((Nat.toDigits 10 n).map byte ++ stop :: rest) = _ :=
    headerWord_digits (fun _ hc => isDigit_of_mem hc) (.inr Nat.toDigits_ne_nil) hstop rest
  unfold headerNumber
  rw [decimal, hword]
  change (readNumber headerBound (asciiText (decimal n)) >>= _) = _
  rw [asciiText_decimal, readNumber_toDigits h]
  rfl

/-- A space in front of a number is passed over. -/
theorem headerNumber_cons_space {stop : UInt8} (hstop : isSpace stop = true)
    (bytes : List UInt8) : headerNumber (stop :: bytes) = headerNumber bytes := by
  have hshown : (true && stop != byte '#') = true := by
    rw [Bool.true_and, bne_iff_ne]
    rintro rfl
    exact absurd hstop (by decide)
  unfold headerNumber
  rw [headerWord, if_pos hshown, if_pos hstop]
  rfl

/-! ## A file -/

/-- The bytes of ASCII text are its characters. -/
theorem encode_ascii {cs : List Char} (h : ∀ c ∈ cs, c.toNat ≤ 0x7F) :
    Text.encode cs = cs.map byte := by
  rw [Text.encode, List.map_eq_flatMap, List.flatMap_def, List.flatMap_def]
  refine congrArg _ (List.map_congr_left fun c hc => ?_)
  rw [Text.encode_char, if_pos (h c hc)]
  rfl

theorem toNat_le_of_isDigit {c : Char} (h : c.isDigit = true) : c.toNat ≤ 0x7F := by
  obtain ⟨d, hd, hc⟩ := exists_toNat_eq h
  omega

theorem bytesOf_append (a b : String) :
    Text.bytesOf (a ++ b) = Text.bytesOf a ++ Text.bytesOf b := by
  rw [Text.bytesOf, String.toList_append, Text.encode, List.flatMap_append]
  rfl

theorem bytesOf_toString (n : Nat) : Text.bytesOf (toString n) = decimal n := by
  rw [Text.bytesOf, Nat.toString_eq_repr, Nat.toList_repr,
    encode_ascii fun c hc => toNat_le_of_isDigit (isDigit_of_mem hc), decimal]

/-- What is written before the samples: the magic number, the sides and the largest sample. -/
theorem heading_eq (r : Raster) (magic : String) :
    write.heading r magic = Text.bytesOf magic ++ 10 :: (decimal r.width ++
      32 :: (decimal r.height ++ 32 :: (decimal 255 ++ [10]))) := by
  have hline : Text.bytesOf (toString "\n") = [10] := by decide +kernel
  have hspace : Text.bytesOf (toString " ") = [32] := by decide +kernel
  have hlargest : Text.bytesOf (toString " 255\n") = 32 :: (decimal 255 ++ [10]) := by
    decide +kernel
  unfold write.heading
  simp only [bytesOf_append, bytesOf_toString, hline, hspace, hlargest, List.append_assoc,
    List.cons_append, List.nil_append]
  rfl

/-- **The header** of a graymap or a pixmap is read up to its samples. -/
theorem mapHeader_eq {width height : Nat} (hwidth : width < headerBound)
    (hheight : height < headerBound) (order : ChannelOrder) (samples : List UInt8) :
    mapHeader order .binary (10 :: (decimal width ++
      32 :: (decimal height ++ 32 :: (decimal 255 ++ 10 :: samples)))) =
      .ok (⟨.binary, .bytes, order, width, height, 255⟩, samples) := by
  have hspace : isSpace 32 = true := by decide
  have hline : isSpace 10 = true := by decide
  unfold mapHeader
  rw [headerNumber_cons_space hline, headerNumber_decimal hwidth hspace]
  dsimp only [bind, Except.bind]
  rw [headerNumber_decimal hheight hspace]
  dsimp only
  rw [headerNumber_decimal (by decide) hline]
  rfl

theorem rasterBytes_eq (width height largest : Nat) (order : ChannelOrder) :
    Header.rasterBytes ⟨.binary, .bytes, order, width, height, largest⟩ =
      width * height * order.channels :=
  rfl

/-- As many samples as the header says are all there. -/
theorem readSamples_eq {width height : Nat} {order : ChannelOrder} {bytes : List UInt8}
    (h : bytes.length = width * height * order.channels) (largest : Nat) :
    readSamples ⟨.binary, .bytes, order, width, height, largest⟩ bytes =
      .ok (bytes.map (·.toNat)) := by
  unfold readSamples
  dsimp only
  rw [rasterBytes_eq, ← h, List.take_length, if_neg (Nat.lt_irrefl _)]
  rfl

/-- A sample whose largest value is that of a byte is not scaled. -/
theorem sampleBytes_scale (b : UInt8) : sampleBytes .eight (scale 255 255 b.toNat) = [b] := by
  rw [scale, if_pos rfl, sampleBytes, Nat.toUInt8, UInt8.ofNat_toNat]

/-- **Samples** of one byte are read as they were written. -/
theorem read_of_header {file : List UInt8} {r : Raster} (hr : r.Storable)
    (hdepth : r.depth = .eight) (hheader : readHeader file =
      .ok (⟨.binary, .bytes, r.order, r.width, r.height, 255⟩, r.bytes)) :
    read file = .ok r := by
  obtain ⟨width, height, order, depth, bytes⟩ := r
  obtain rfl : depth = .eight := hdepth
  have hlength : bytes.length = width * height * order.channels :=
    hr.wellFormed.trans (congrArg _ (Nat.mul_one _))
  have hlimit : ¬ readLimit < width * height * order.channels * 1 := by
    rw [Nat.mul_one, ← hlength]
    exact Nat.not_lt.2 hr.limit
  unfold read
  rw [hheader]
  refine (if_neg hlimit).trans ?_
  rw [readSamples_eq hlength]
  change Except.ok (Raster.mk width height order .eight ((bytes.map (·.toNat)).flatMap fun s =>
    sampleBytes .eight (scale 255 255 s))) = _
  rw [List.flatMap_map]
  simp only [sampleBytes_scale, List.flatMap_singleton']

/-- **The container of Netpbm files** keeps every graymap and every pixmap of eight bits. -/
theorem keeps {r : Raster} (hr : r.Storable) (hdepth : r.depth = .eight)
    (horder : r.order = .r ∨ r.order = .rgb) : container.Keeps r := by
  have hheading (magic : String) : write.heading r magic ++ r.bytes =
      Text.bytesOf magic ++ 10 :: (decimal r.width ++
        32 :: (decimal r.height ++ 32 :: (decimal 255 ++ 10 :: r.bytes))) := by
    rw [heading_eq]
    simp only [List.append_assoc, List.cons_append, List.nil_append]
  rcases horder with horder | horder
  · refine ⟨write.heading r "P5" ++ r.bytes, ?_, read_of_header hr hdepth ?_⟩
    · change write r = _
      rw [write, horder, hdepth]
    · rw [hheading, horder]
      exact mapHeader_eq hr.width_lt hr.height_lt .r r.bytes
  · refine ⟨write.heading r "P6" ++ r.bytes, ?_, read_of_header hr hdepth ?_⟩
    · change write r = _
      rw [write, horder, hdepth]
    · rw [hheading, horder]
      exact mapHeader_eq hr.width_lt hr.height_lt .rgb r.bytes

end DriverBench.Raster.Netpbm
