import DriverBench.Arguments
import DriverBench.CommandLine
import DriverBench.Proofs.Token.Grammar
/-!
# Quoted text and its content

Three things have to agree on where an escape begins and ends: what puts a text into quotes, what
finds the closing quote, and what resolves the content. The decoder takes the content a *unit* at a
time, a character or an escape of two. A content is one that the closing quote was found behind just
if every quote in it is the second character of an escape and no escape breaks off
(`escaped_iff_units`), and putting a text into quotes makes such a content.
-/

namespace DriverBench

namespace Text

/-! ## Units of a content -/

/-- What is taken off a content at a time. -/
inductive ContentUnit where
  | plain (c : Char)
  | escape (e : Char)
  /-- A backslash with nothing behind it. -/
  | dangling
  deriving DecidableEq, Repr

namespace ContentUnit

/-- How a unit is written. -/
def spelling : ContentUnit → List Char
  | plain c => [c]
  | escape e => ['\\', e]
  | dangling => ['\\']

/-- What a unit stands for. -/
def meaning : ContentUnit → List Char
  | plain c => [c]
  | escape e => (escapeMeaning e).toList
  | dangling => []

end ContentUnit

/-- The units of a content, from left to right. -/
def unitsOf : List Char → List ContentUnit
  | [] => []
  | '\\' :: e :: rest => .escape e :: unitsOf rest
  | ['\\'] => [.dangling]
  | c :: rest => .plain c :: unitsOf rest

/-- The units make up the content. -/
theorem spelling_unitsOf (cs : List Char) : (unitsOf cs).flatMap ContentUnit.spelling = cs := by
  fun_induction unitsOf cs with
  | case1 => rfl
  | case2 e rest ih => rw [List.flatMap_cons, ih]; rfl
  | case3 => rfl
  | case4 c rest _ _ ih => rw [List.flatMap_cons, ih]; rfl

/-- **Resolving a content** puts in the place of each unit what it stands for. -/
theorem unescape_eq_meaning (cs : List Char) :
    unescape cs = (unitsOf cs).flatMap ContentUnit.meaning := by
  fun_induction unitsOf cs with
  | case1 => rfl
  | case2 e rest ih => rw [unescape, ih, List.flatMap_cons]; rfl
  | case3 => rfl
  | case4 c rest hpair hlone ih =>
    have hstep : unescape (c :: rest) = c :: unescape rest := by
      rw [unescape.eq_def]
      split <;> simp_all
    rw [hstep, ih, List.flatMap_cons]
    rfl

/-- **What may stand between quotes** is what falls into units without a bare quote and without an
escape that breaks off. -/
theorem escaped_iff_units (cs : List Char) :
    Escaped cs ↔ ∀ u ∈ unitsOf cs, u ≠ .dangling ∧ u ≠ .plain '"' := by
  constructor
  · intro h
    induction h with
    | nil => simp [unitsOf]
    | @plain c cs hq hb _ ih =>
      have hstep : unitsOf (c :: cs) = .plain c :: unitsOf cs := by
        rw [unitsOf.eq_def]
        split <;> simp_all
      rw [hstep]
      intro u hu
      rcases List.mem_cons.1 hu with rfl | hu
      · simpa using hq
      · exact ih u hu
    | pair c _ ih =>
      intro u hu
      rcases List.mem_cons.1 hu with rfl | hu
      · simp
      · exact ih u hu
  · intro h
    fun_induction unitsOf cs with
    | case1 => exact .nil
    | case2 e rest ih => exact .pair e (ih fun u hu => h u (List.mem_cons_of_mem _ hu))
    | case3 => exact absurd rfl (h .dangling List.mem_cons_self).1
    | case4 c rest hpair hlone ih =>
      refine .plain ?_ ?_ (ih fun u hu => h u (List.mem_cons_of_mem _ hu))
      · rintro rfl
        exact (h _ List.mem_cons_self).2 rfl
      · rintro rfl
        cases rest with
        | nil => exact hlone rfl rfl
        | cons d rest => exact hpair d rest rfl rfl

/-! ## Putting a text into quotes -/

/-- A text with another one in the place of each `c`. -/
def replaceChar (c : Char) (other : List Char) (cs : List Char) : List Char :=
  cs.flatMap fun d => if d = c then other else [d]

/-- One pass over a text writes the escapes of two: backslashes are doubled first, so that the
backslashes which then come in front of the quotes stay single. -/
theorem escape_eq_replaceChar (cs : List Char) :
    escape cs = replaceChar '"' ['\\', '"'] (replaceChar '\\' ['\\', '\\'] cs) := by
  induction cs with
  | nil => rfl
  | cons c cs ih =>
    have hcons : ∀ (d e : Char) (other cs : List Char), replaceChar d other (e :: cs) =
        (if e = d then other else [e]) ++ replaceChar d other cs := fun _ _ _ _ => rfl
    rw [escape, hcons, ih]
    by_cases hslash : c = '\\'
    · subst hslash
      rfl
    by_cases hquote : c = '"'
    · subst hquote
      rfl
    · rw [if_neg (by simp [hslash, hquote]), if_neg hslash, List.singleton_append, hcons,
        if_neg hquote]
      rfl

theorem escaped_escape (cs : List Char) : Escaped (escape cs) := by
  induction cs with
  | nil => exact .nil
  | cons c cs ih =>
    rw [escape]
    split
    · exact .pair c ih
    · next h =>
      rw [not_or] at h
      exact .plain h.2 h.1 ih

end Text

namespace Token

/-- A text in quotes is one token, wherever it stands. -/
theorem shape_quote (before : List Char) (s : String) (after : List Char) :
    Shape before .quoted (Text.quote s).toList after := by
  rw [Text.quote, String.toList_ofList]
  exact .quoted after (Text.escaped_escape s.toList)

/-- The line that loads a library falls into the command and the name of the library. -/
theorem tokenize_load_quote (s : String) :
    tokenize ("load " ++ Text.quote s) =
      [⟨.word, 0, "load"⟩, ⟨.quoted, 5, Text.quote s⟩,
        finishAt ("load " ++ Text.quote s).utf8ByteSize] := by
  have hword : IsWord [] "load".toList (' ' :: (Text.quote s).toList) := by
    refine ⟨by decide, List.all_eq_true.1 (by decide), by simp, fun c hc => ?_⟩
    obtain rfl := Option.some.inj hc
    rfl
  have hnumber : ¬ StartsNumber "load".toList := by
    rw [← looksLikeNumber_iff]
    decide
  have hname : Divides "load".toList (' ' :: (Text.quote s).toList)
      [⟨.quoted, 5, Text.quote s⟩] := by
    have hend : Divides ("load".toList ++ [' '] ++ (Text.quote s).toList) [] [] := .nil (by simp)
    have h := Divides.cons (List.all_eq_true.1 (by decide)) (shape_quote _ s []) hend
    rw [List.append_nil, String.ofList_toList] at h
    exact h
  have hline : Divides [] ("load " ++ Text.quote s).toList
      [⟨.word, 0, "load"⟩, ⟨.quoted, 5, Text.quote s⟩] := by
    rw [String.toList_append]
    have hbehind : Divides ([] ++ [] ++ "load".toList) (' ' :: (Text.quote s).toList)
        [⟨.quoted, 5, Text.quote s⟩] := hname
    have h := Divides.cons (by simp) (.word hword hnumber) hbehind
    exact h
  have hscan : _ = scan 0 ("load " ++ Text.quote s).toList := hline.eq_scan
  rw [tokenize, ← hscan, Text.byteLength_toList]
  rfl

variable {line : String} {t : Token}

/-- What is between the quotes of a quoted text. -/
theorem exists_content (ht : t ∈ tokenize line) (hkind : t.kind = .quoted) :
    ∃ content, t.text.toList = '"' :: (content ++ ['"']) ∧ Text.Escaped content := by
  rcases List.mem_append.1 ht with ht | ht
  · obtain ⟨left, right, -, -, hshape⟩ :=
      (divides_scan (border_nil line.toList)).shaped t ht
    generalize htext : t.text.toList = text at hshape
    cases (hshape .quoted).1 hkind with
    | sign _ hs => exact absurd hs (by simp [signs])
    | quoted _ hi => exact ⟨_, rfl, hi⟩
  · obtain rfl := List.mem_singleton.1 ht
    cases hkind

/-- **Quoting agrees with division and decoding.** The line that loads a named library is made by
doubling each backslash of the name and then writing a backslash before each double quote; it
divides into the command, one quoted text and the end, and the text decodes to the name. A quoted
text of whatever line is a content between two double quotes, which the decoder takes a unit at a
time; no unit is an escape that breaks off, and every double quote belongs to an escape. -/
theorem quoting_agrees (a : Arguments) (s line : String) :
    (∃ start, { a with library := some s }.loadLine? = some start ∧
      start.toList = "load \"".toList ++ Text.replaceChar '"' ['\\', '"']
        (Text.replaceChar '\\' ['\\', '\\'] s.toList) ++ ['"'] ∧
      tokenize start = [⟨.word, 0, "load"⟩, ⟨.quoted, 5, Text.quote s⟩,
        ⟨.finish, start.utf8ByteSize, ""⟩] ∧
      Text.unquote (Text.quote s) = s) ∧
    ∀ t ∈ tokenize line, t.kind = .quoted →
      ∃ content, t.text.toList = '"' :: (content ++ ['"']) ∧
        (Text.unitsOf content).flatMap Text.ContentUnit.spelling = content ∧
        Text.unquote t.text =
          String.ofList ((Text.unitsOf content).flatMap Text.ContentUnit.meaning) ∧
        ∀ u ∈ Text.unitsOf content, u ≠ .dangling ∧ u ≠ .plain '"' := by
  refine ⟨⟨"load " ++ Text.quote s, rfl, ?_, tokenize_load_quote s, Text.unquote_quote s⟩, ?_⟩
  · have hquote : (Text.quote s).toList = '"' :: Text.escape s.toList ++ ['"'] :=
      String.toList_ofList
    rw [← Text.escape_eq_replaceChar, String.toList_append, hquote, List.append_assoc]
    rfl
  · intro t ht hkind
    obtain ⟨content, htext, hescaped⟩ := exists_content ht hkind
    refine ⟨content, htext, Text.spelling_unitsOf content, ?_,
      (Text.escaped_iff_units content).1 hescaped⟩
    rw [Text.unquote, htext, Text.dropQuotes, List.getLast?_concat, if_pos rfl,
      List.dropLast_concat, Text.unescape_eq_meaning]

/-- In `x "a\\"` the second backslash belongs to the first, and the quote behind it closes. -/
theorem quoting_agrees_of_backslashes :
    (⟨.quoted, 2, "\"a\\\\\""⟩ : Token) ∈ tokenize "x \"a\\\\\"" ∧
      ∃ content, "\"a\\\\\"".toList = '"' :: (content ++ ['"']) ∧
        (Text.unitsOf content).flatMap Text.ContentUnit.spelling = content ∧
        Text.unquote "\"a\\\\\"" =
          String.ofList ((Text.unitsOf content).flatMap Text.ContentUnit.meaning) ∧
        ∀ u ∈ Text.unitsOf content, u ≠ .dangling ∧ u ≠ .plain '"' := by
  have hmem : (⟨.quoted, 2, "\"a\\\\\""⟩ : Token) ∈ tokenize "x \"a\\\\\"" := by decide +kernel
  exact ⟨hmem, (quoting_agrees {} "" "x \"a\\\\\"").2 _ hmem rfl⟩

end Token

end DriverBench
