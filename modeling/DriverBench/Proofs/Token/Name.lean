import DriverBench.Cursor
import DriverBench.Proofs.Token.Grammar
/-!
# Names

A name is a text that is a word by itself (`Token.IsName`). Which characters it has is all there is
to it, so a word of one line is a word of every other line too: wherever a name stands behind blanks
and in front of what no word goes on with, scanning takes just the name off (`IsName.scan_eq`). What
is read in one place can therefore be written in any other.
-/

namespace DriverBench

/-- A text of blanks. -/
def Text.Blank (s : String) : Prop :=
  ∀ c ∈ s.toList, isBlank c = true

instance (s : String) : Decidable (Text.Blank s) :=
  decidable_of_iff (s.toList.all Text.isBlank = true) List.all_eq_true

namespace Token

/-- What can be a word: characters of words, of which the first ones are no number. -/
structure IsName (name : List Char) : Prop where
  ne_nil : name ≠ []
  parts : ∀ c ∈ name, isWordPart c = true
  not_number : ¬ StartsNumber name

variable {before blanks text name after : List Char} {kind : TokenKind}

/-- **A token in front of the rest**: behind the blanks scanning takes what has a shape there, and
goes on behind it. -/
theorem scan_of_shape (hb : ∀ c ∈ blanks, Text.isBlank c = true) (h : Shape before kind text after)
    (start : Nat) :
    scan start (blanks ++ (text ++ after)) =
      ⟨kind, start + Text.byteLength blanks, String.ofList text⟩ ::
        scan (start + Text.byteLength blanks + Text.byteLength text) after := by
  obtain ⟨c, rest, heq, hc, hlexeme⟩ := h.lexeme_eq
  have hstop : ∀ d ∈ (text ++ after).head?, Text.isBlank d = false := by
    intro d hd
    rw [heq, List.head?_cons, Option.mem_some] at hd
    rwa [← hd]
  obtain ⟨htake, hdrop⟩ := takeWhile_run hb hstop
  rw [heq] at htake hdrop ⊢
  rw [scan]
  split
  · next hnil =>
    rw [hdrop] at hnil
    cases hnil
  · next d tail hcons =>
    rw [hdrop] at hcons
    obtain ⟨rfl, rfl⟩ := List.cons.inj hcons
    rw [htake, hlexeme]

theorem scan_of_blank (hb : ∀ c ∈ blanks, Text.isBlank c = true) (start : Nat) :
    scan start blanks = [] := by
  rw [scan]
  split
  · rfl
  · next c rest hcons =>
    rw [List.dropWhile_eq_nil_iff.2 hb] at hcons
    cases hcons

theorem scan_sign {c : Char} (hb : ∀ c ∈ blanks, Text.isBlank c = true) (hs : (kind, c) ∈ signs)
    (start : Nat) :
    scan start (blanks ++ c :: after) =
      ⟨kind, start + Text.byteLength blanks, String.ofList [c]⟩ ::
        scan (start + Text.byteLength blanks + Text.byteLength [c]) after := by
  have hshape : Shape [] kind [c] after := .sign after hs
  exact scan_of_shape hb hshape start

/-- A word of a line is a name. -/
theorem Shape.isName (h : Shape before .word text after) : IsName text := by
  cases h with
  | sign _ hs => exact absurd hs (by simp [signs])
  | word hw hn => exact ⟨hw.ne_nil, hw.parts, hn⟩

theorem isName_of_mem_scan {line : String} {t : Token} (ht : t ∈ (Cursor.ofLine line).pending)
    (hword : t.kind = .word) : IsName t.text.toList := by
  obtain ⟨left, right, -, -, hkind⟩ := (divides_scan (border_nil line.toList)).shaped t ht
  exact ((hkind .word).1 hword).isName

namespace IsName

theorem shape (h : IsName name) (hafter : ∀ c ∈ after.head?, isWordPart c = false) :
    Shape [] .word name after :=
  .word ⟨h.ne_nil, h.parts, by simp, hafter⟩ h.not_number

/-- **A name is a word wherever it stands.** -/
theorem scan_eq (h : IsName name) (hb : ∀ c ∈ blanks, Text.isBlank c = true)
    (hafter : ∀ c ∈ after.head?, isWordPart c = false) (start : Nat) :
    scan start (blanks ++ (name ++ after)) =
      ⟨.word, start + Text.byteLength blanks, String.ofList name⟩ ::
        scan (start + Text.byteLength blanks + Text.byteLength name) after :=
  scan_of_shape hb (h.shape hafter) start

end IsName

/-- By itself a name is one token. -/
theorem tokenize_of_isName {n : String} (h : IsName n.toList) :
    tokenize n = [⟨.word, 0, n⟩, finishAt (Text.byteLength n.toList)] := by
  have hscan : scan 0 ([] ++ (n.toList ++ [])) = _ := h.scan_eq (by simp) (by simp) 0
  rw [List.nil_append, List.append_nil, String.ofList_toList] at hscan
  rw [tokenize, hscan, scan_of_blank (by simp)]
  rfl

/-- No word goes on with a blank. -/
theorem isWordPart_of_isBlank {c : Char} (h : Text.isBlank c = true) : isWordPart c = false := by
  by_contra hword
  rw [(apart_of_isWordPart (by simpa using hword)).1] at h
  cases h

/-- No word goes on behind blanks. -/
theorem isWordPart_of_blanks (hb : ∀ c ∈ blanks, Text.isBlank c = true)
    (hafter : blanks = [] → ∀ c ∈ after.head?, isWordPart c = false) :
    ∀ c ∈ (blanks ++ after).head?, isWordPart c = false := by
  cases blanks with
  | nil => exact hafter rfl
  | cons b blanks =>
    intro c hc
    obtain rfl := Option.some.inj hc
    exact isWordPart_of_isBlank (hb b List.mem_cons_self)

/-- In front of a line a name is its first token. -/
theorem ofLine_of_isName {n lead rest : String} (h : IsName n.toList) (hlead : Text.Blank lead)
    (hrest : ∀ c ∈ rest.toList.head?, isWordPart c = false) :
    Cursor.ofLine (lead ++ n ++ rest) =
      ⟨lead ++ n ++ rest, ⟨.word, lead.utf8ByteSize, n⟩ ::
        scan (lead.utf8ByteSize + n.utf8ByteSize) rest.toList⟩ := by
  have hscan := h.scan_eq hlead hrest 0
  rw [Nat.zero_add, Text.byteLength_toList, Text.byteLength_toList, String.ofList_toList] at hscan
  rw [Cursor.ofLine, ← hscan, String.append_assoc, String.toList_append, String.toList_append]

end Token

end DriverBench
