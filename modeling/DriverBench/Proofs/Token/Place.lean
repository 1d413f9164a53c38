import Mathlib.Data.List.DropRight
import DriverBench.Caret
import DriverBench.Cursor
/-!
# Places in a line

Places are counted in bytes, lines are made of characters; a place is sound if it is between two
characters of the line. The tokens that a line is divided into lie at sound places, and so does
every place that is made from theirs: the range of a token, the smallest range around two, and the
rest of the line. A cursor on a line has such tokens ahead, wherever it stands.
-/

namespace DriverBench

namespace Text

/-- The text can be divided behind its first `n` bytes. -/
def IsBoundary (cs : List Char) (n : Nat) : Prop :=
  ∃ before after, before ++ after = cs ∧ byteLength before = n

theorem IsBoundary.le {cs : List Char} {n : Nat} (h : IsBoundary cs n) : n ≤ byteLength cs := by
  obtain ⟨before, after, rfl, rfl⟩ := h
  simp

/-- A text without bytes is empty. -/
theorem eq_nil_of_byteLength_eq_zero {cs : List Char} (h : byteLength cs = 0) : cs = [] := by
  cases cs with
  | nil => rfl
  | cons c cs =>
    have hc := Char.utf8Size_pos c
    rw [byteLength_cons] at h
    omega

/-- Of two ways to divide a text in two, the later one divides behind the earlier one. -/
theorem exists_append_of_byteLength_le {a b c d : List Char} (h : a ++ b = c ++ d)
    (hle : byteLength a ≤ byteLength c) : ∃ m, c = a ++ m ∧ b = m ++ d := by
  rcases List.append_eq_append_iff.1 h with ⟨m, rfl, rfl⟩ | ⟨m, rfl, rfl⟩
  · exact ⟨m, rfl, rfl⟩
  · have hm : byteLength m = 0 := by
      rw [byteLength_append] at hle
      omega
    obtain rfl := eq_nil_of_byteLength_eq_zero hm
    exact ⟨[], by simp, rfl⟩

/-- A text is divided at one place in one way. -/
theorem append_inj_of_byteLength {a b c d : List Char} (h : a ++ b = c ++ d)
    (hlen : byteLength a = byteLength c) : a = c ∧ b = d := by
  obtain ⟨m, rfl, rfl⟩ := exists_append_of_byteLength_le h (Nat.le_of_eq hlen)
  have hm : byteLength m = 0 := by
    rw [byteLength_append] at hlen
    omega
  obtain rfl := eq_nil_of_byteLength_eq_zero hm
  exact ⟨(List.append_nil a).symm, rfl⟩

/-- Two places in their order divide a text in three. -/
theorem IsBoundary.split {cs : List Char} {m n : Nat} (hm : IsBoundary cs m)
    (hn : IsBoundary cs n) (hmn : m ≤ n) : ∃ before marked after,
      before ++ (marked ++ after) = cs ∧ byteLength before = m ∧ byteLength marked = n - m := by
  obtain ⟨before, rest, hcs, rfl⟩ := hm
  obtain ⟨upTo, after, rfl, rfl⟩ := hn
  obtain ⟨marked, rfl, -⟩ := exists_append_of_byteLength_le hcs hmn
  exact ⟨before, marked, after, by simp, rfl, by simp⟩

/-- The bytes counted character by character are those of the string. -/
theorem byteLength_toList (s : String) : byteLength s.toList = s.utf8ByteSize := by
  suffices h : ∀ cs : List Char, byteLength cs = (String.ofList cs).utf8ByteSize by
    simpa using h s.toList
  intro cs
  induction cs with
  | nil => simp
  | cons c cs ih =>
    rw [byteLength_cons, ih, ← List.singleton_append, String.ofList_append,
      String.utf8ByteSize_append, ← String.singleton_eq_ofList, String.utf8ByteSize_singleton]

/-- A place between two characters is a valid position of the string. -/
theorem IsBoundary.isValid {line : String} {n : Nat} (h : IsBoundary line.toList n) :
    String.Pos.Raw.IsValid line ⟨n⟩ := by
  obtain ⟨before, after, hcs, rfl⟩ := h
  refine String.Pos.Raw.isValid_iff_exists_append.2
    ⟨String.ofList before, String.ofList after, ?_, ?_⟩
  · rw [← String.ofList_append, hcs, String.ofList_toList]
  · ext
    rw [String.byteIdx_rawEndPos, ← byteLength_toList, String.toList_ofList]

/-- A text is divided where it is asked for. -/
theorem splitAtByte?_append (before after : List Char) :
    splitAtByte? (byteLength before) (before ++ after) = some (before, after) := by
  induction before with
  | nil => simp [splitAtByte?]
  | cons c before ih =>
    have hc := Char.utf8Size_pos c
    obtain ⟨n, hn⟩ : ∃ n, c.utf8Size + byteLength before = n + 1 :=
      ⟨c.utf8Size + byteLength before - 1, by omega⟩
    rw [byteLength_cons, List.cons_append, hn, splitAtByte?, ← hn, if_pos (by omega),
      Nat.add_sub_cancel_left, ih]
    rfl

/-- Nothing is trimmed off the front of a text that starts with no blank: what is left of it is a
beginning of it. -/
theorem exists_trimWhere_append {p : Char → Bool} {cs : List Char} (h : cs.dropWhile p = cs) :
    ∃ after, trimWhere p cs ++ after = cs := by
  refine ⟨(cs.reverse.takeWhile p).reverse, ?_⟩
  rw [trimWhere, h, dropEndWhile, ← List.reverse_append, List.takeWhile_append_dropWhile,
    List.reverse_reverse]

end Text

/-! ## Ranges -/

/-- A range of a line: its ends are between characters and in their order. -/
structure Span.In (line : String) (sp : Span) : Prop where
  ordered : sp.start ≤ sp.stop
  start : Text.IsBoundary line.toList sp.start
  stop : Text.IsBoundary line.toList sp.stop

variable {line : String}

/-- A stretch of a line has a range in it. -/
theorem Span.in_of_append {before marked after : List Char}
    (h : before ++ (marked ++ after) = line.toList) :
    Span.In line ⟨Text.byteLength before, Text.byteLength before + Text.byteLength marked⟩ where
  ordered := Nat.le_add_right _ _
  start := ⟨before, marked ++ after, h, rfl⟩
  stop := ⟨before ++ marked, after, by rw [List.append_assoc, h], by simp⟩

theorem Span.In.cover {a b : Span} (ha : a.In line) (hb : b.In line) : (a.cover b).In line where
  ordered := Nat.le_trans (Nat.min_le_left _ _) (Nat.le_trans ha.ordered (Nat.le_max_left _ _))
  start := by
    rcases Nat.le_total a.start b.start with h | h
    · simpa only [Span.cover, Nat.min_eq_left h] using ha.start
    · simpa only [Span.cover, Nat.min_eq_right h] using hb.start
  stop := by
    rcases Nat.le_total a.stop b.stop with h | h
    · simpa only [Span.cover, Nat.max_eq_right h] using hb.stop
    · simpa only [Span.cover, Nat.max_eq_left h] using ha.stop

/-! ## Tokens -/

/-- A token of a line: its text stands in the line at its place, and no blank stands there. -/
def Token.In (line : String) (t : Token) : Prop :=
  ∃ before after, before ++ (t.text.toList ++ after) = line.toList ∧
    Text.byteLength before = t.start ∧
    (t.text.toList ++ after).dropWhile Text.isBlank = t.text.toList ++ after

namespace Token

theorem In.span {t : Token} (h : t.In line) : t.span.In line := by
  obtain ⟨before, after, heq, hstart, -⟩ := h
  have := Span.in_of_append heq
  rwa [hstart] at this

/-- The end of a line is a token of it. -/
theorem finishAt_in (line : String) : (finishAt (Text.byteLength line.toList)).In line :=
  ⟨line.toList, [], by simp [finishAt], rfl, by simp [finishAt]⟩

/-- **Dividing the rest of a line gives tokens of that line.** -/
theorem in_of_mem_scan {start : Nat} {cs before : List Char} (hcs : before ++ cs = line.toList)
    (hb : Text.byteLength before = start) : ∀ t ∈ scan start cs, t.In line := by
  fun_induction scan start cs generalizing before with
  | case1 => simp
  | case2 start cs c rest hdrop begin l =>
    rename_i ih
    have hl : l.text ++ l.rest = c :: rest := Lexeme.text_append_rest c rest
    have hsplit : cs.takeWhile Text.isBlank ++ (l.text ++ l.rest) = cs := by
      rw [hl, ← hdrop, List.takeWhile_append_dropWhile]
    have hbegin : Text.byteLength (before ++ cs.takeWhile Text.isBlank) = begin := by
      rw [Text.byteLength_append, hb]
    intro t ht
    rcases List.mem_cons.1 ht with rfl | ht
    · refine ⟨before ++ cs.takeWhile Text.isBlank, l.rest, ?_, hbegin, ?_⟩
      · rw [String.toList_ofList, List.append_assoc, hsplit, hcs]
      · rw [String.toList_ofList, hl, ← hdrop, List.dropWhile_idempotent]
    · have hrest : before ++ cs.takeWhile Text.isBlank ++ l.text ++ l.rest = line.toList := by
        rw [List.append_assoc, List.append_assoc, hsplit, hcs]
      exact ih hrest (by rw [Text.byteLength_append, hbegin]) t ht

end Token

/-! ## Cursors -/

namespace Cursor

/-- A cursor on a line: the tokens ahead are tokens of that line. -/
structure On (line : String) (c : Cursor) : Prop where
  line_eq : c.line = line
  ahead : ∀ t ∈ c.pending, t.In line

theorem on_ofLine (line : String) : (ofLine line).On line :=
  ⟨rfl, Token.in_of_mem_scan (List.nil_append _) rfl⟩

/-- The second cursor is one that reading can lead to: on the same line, behind some tokens. -/
structure Leads (c c' : Cursor) : Prop where
  line_eq : c'.line = c.line
  suffix : c'.pending <:+ c.pending

theorem Leads.refl (c : Cursor) : c.Leads c := ⟨rfl, List.suffix_refl _⟩

theorem Leads.trans {a b c : Cursor} (h : a.Leads b) (h' : b.Leads c) : a.Leads c :=
  ⟨h'.line_eq.trans h.line_eq, h'.suffix.trans h.suffix⟩

theorem leads_advance (c : Cursor) : c.Leads c.advance :=
  ⟨rfl, List.tail_suffix _⟩

theorem Leads.length_le {c c' : Cursor} (h : c.Leads c') :
    c'.pending.length ≤ c.pending.length :=
  h.suffix.length_le

variable {c : Cursor}

/-- Where there is a token to be read, the line is not at its end. -/
theorem kind_ne_finish_of_hasMore (h : c.hasMore = true) : c.current.kind ≠ .finish := by
  intro hkind
  simp [hasMore, hkind] at h

theorem On.of_leads {c' : Cursor} (h : c.On line) (hl : c.Leads c') : c'.On line :=
  ⟨hl.line_eq.trans h.line_eq, fun t ht => h.ahead t (hl.suffix.subset ht)⟩

theorem On.finish (h : c.On line) : c.finish.In line := by
  rw [Cursor.finish, h.line_eq]
  exact Token.finishAt_in line

/-- What a cursor on a line stands before is a token of it. -/
theorem On.current (h : c.On line) : c.current.In line := by
  have hf := h.finish
  rcases hp : c.pending with _ | ⟨t, rest⟩
  · simpa [Cursor.current, hp] using hf
  · have ht := h.ahead t (by simp [hp])
    simpa [Cursor.current, hp] using ht

/-- The rest of the line behind a cursor is a range of it. -/
theorem On.remainingSpan (h : c.On line) : c.remainingSpan.In line := by
  obtain ⟨before, after, heq, hstart, hblank⟩ := h.current
  have hrest : Text.dropBytes c.current.start c.line.toList = c.current.text.toList ++ after := by
    rw [h.line_eq, ← heq, ← hstart, Text.dropBytes_byteLength_append]
  have hrem : c.remaining.toList =
      Text.trimWhere Text.isBlank (c.current.text.toList ++ after) := by
    rw [Cursor.remaining, Text.trimBlank, hrest, String.toList_ofList, String.toList_ofList]
  obtain ⟨tail, htail⟩ := Text.exists_trimWhere_append hblank
  rw [← htail, ← hrem] at heq
  have := Span.in_of_append heq
  rwa [hstart] at this

end Cursor

end DriverBench
