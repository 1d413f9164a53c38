import DriverBench.Proofs.Token.Name
/-!
# Lines put together

A blank settles what is in front of it: whatever token ends there would end there at the end of a
line too, since blanks are in no word, and quotes that are closed do not look further. Only a quote
that is still open takes the blank in. So the tokens of two texts with blanks between them are those
of the one and then those of the other, further on (`scan_append`); and where a token ends, what is
behind it is divided as if it stood alone, which is what asking for the next token again and again
from there gives (`gathers_iff`).
-/

namespace DriverBench.Token

variable {before rest tail text after : List Char} {kind : TokenKind} {start : Nat}

/-- A quote that nothing closes, with all that is behind it. -/
def IsOpenQuote (t : Token) : Prop :=
  t.kind = .invalid ∧ t.text.toList.head? = some '"'

instance (t : Token) : Decidable t.IsOpenQuote :=
  inferInstanceAs (Decidable (_ ∧ _))

theorem isOpenQuote_mk : IsOpenQuote ⟨kind, start, String.ofList text⟩ ↔
    kind = .invalid ∧ text.head? = some '"' := by
  rw [IsOpenQuote, String.toList_ofList]

/-- The same token with `n` more bytes in front of it. -/
def shift (n : Nat) (t : Token) : Token :=
  { t with start := n + t.start }

@[simp] theorem shift_kind (n : Nat) (t : Token) : (t.shift n).kind = t.kind := rfl

@[simp] theorem shift_start (n : Nat) (t : Token) : (t.shift n).start = n + t.start := rfl

/-- Both ends of a token are shifted. -/
@[simp] theorem shift_stop (n : Nat) (t : Token) : (t.shift n).stop = n + t.stop :=
  Nat.add_assoc _ _ _

@[simp] theorem shift_finishAt (n length : Nat) :
    (finishAt length).shift n = finishAt (n + length) := rfl

/-! ## Scanning step by step -/

theorem scan_of_nil {cs : List Char} (h : cs.dropWhile Text.isBlank = []) (start : Nat) :
    scan start cs = [] := by
  rw [scan]
  split
  · rfl
  · next hcons => cases h.symm.trans hcons

theorem scan_of_cons {cs rest : List Char} {c : Char} (h : cs.dropWhile Text.isBlank = c :: rest)
    (start : Nat) :
    scan start cs =
      ⟨(lexeme c rest).kind, start + Text.byteLength (cs.takeWhile Text.isBlank),
          String.ofList (lexeme c rest).text⟩ ::
        scan (start + Text.byteLength (cs.takeWhile Text.isBlank ++ (lexeme c rest).text))
          (lexeme c rest).rest := by
  rw [scan]
  split
  · next hnil => cases h.symm.trans hnil
  · next hcons =>
    obtain ⟨rfl, rfl⟩ := List.cons.inj (h.symm.trans hcons)
    rw [Text.byteLength_append, ← Nat.add_assoc]

/-- The tokens from some place on are those of what is left of the text there. -/
theorem exists_of_suffix_scan {start : Nat} {cs : List Char} {ts : List Token}
    (h : ts <:+ scan start cs) :
    ∃ skipped left, cs = skipped ++ left ∧ ts = scan (start + Text.byteLength skipped) left := by
  fun_induction scan start cs with
  | case1 start cs hdrop =>
    exact ⟨[], cs, rfl, (List.suffix_nil.1 h).trans (scan_of_nil hdrop _).symm⟩
  | case2 start cs c rest hdrop =>
    rename_i begin l ih
    rcases List.suffix_cons_iff.1 h with rfl | hrest
    · refine ⟨[], cs, rfl, ?_⟩
      rw [Text.byteLength_nil, Nat.add_zero, scan_of_cons hdrop, Text.byteLength_append,
        ← Nat.add_assoc]
    · obtain ⟨skipped, left, hl, rfl⟩ := ih hrest
      refine ⟨cs.takeWhile Text.isBlank ++ l.text ++ skipped, left, ?_, ?_⟩
      · rw [List.append_assoc, ← hl, List.append_assoc, Lexeme.text_append_rest, ← hdrop,
          List.takeWhile_append_dropWhile]
      · simp only [Text.byteLength_append, begin]
        congr 1
        omega

/-- Blanks in front are skipped. -/
theorem scan_blanks {blanks : List Char} (hb : ∀ c ∈ blanks, Text.isBlank c = true) (start : Nat)
    (rest : List Char) :
    scan start (blanks ++ rest) = scan (start + Text.byteLength blanks) rest := by
  have hdrop : (blanks ++ rest).dropWhile Text.isBlank = rest.dropWhile Text.isBlank :=
    List.dropWhile_append_of_pos hb
  have htake : (blanks ++ rest).takeWhile Text.isBlank =
      blanks ++ rest.takeWhile Text.isBlank := List.takeWhile_append_of_pos hb
  cases hrest : rest.dropWhile Text.isBlank with
  | nil => rw [scan_of_nil (hdrop.trans hrest), scan_of_nil hrest]
  | cons c more =>
    rw [scan_of_cons (hdrop.trans hrest), scan_of_cons hrest, htake]
    simp only [Text.byteLength_append, Nat.add_assoc]

/-- **Where a text stands** only shifts its tokens. -/
theorem scan_add (n start : Nat) (cs : List Char) :
    scan (n + start) cs = (scan start cs).map (shift n) := by
  fun_induction scan start cs with
  | case1 start cs hdrop =>
    rw [scan_of_nil hdrop]
    rfl
  | case2 start cs c rest hdrop =>
    rename_i begin l ih
    have hbehind : n + (begin + Text.byteLength l.text) =
        n + start + Text.byteLength (cs.takeWhile Text.isBlank ++ l.text) := by
      rw [Text.byteLength_append]
      simp only [begin, Nat.add_assoc]
    rw [scan_of_cons hdrop, List.map_cons, ← ih, hbehind, shift]
    simp only [begin, l, Nat.add_assoc]

theorem scan_eq_map_shift (n : Nat) (cs : List Char) : scan n cs = (scan 0 cs).map (shift n) :=
  scan_add n 0 cs

/-! ## The seam -/

/-- **A token does not look across a blank**: unless it is an open quote, it is the same token when
something follows that no word goes on with. -/
theorem Shape.append (h : Shape before kind text after)
    (hopen : ¬ (kind = .invalid ∧ text.head? = some '"'))
    (htail : ∀ c ∈ tail.head?, isWordPart c = false) : Shape before kind text (after ++ tail) := by
  have hword : IsWord before text after → IsWord before text (after ++ tail) := fun hw =>
    ⟨hw.ne_nil, hw.parts, hw.left, fun c hc => by
      cases after with
      | nil => exact htail c hc
      | cons d more => exact hw.right c hc⟩
  cases h with
  | sign _ hs => exact .sign _ hs
  | quoted _ hi => exact .quoted _ hi
  | constant hw hn => exact .constant (hword hw) hn
  | word hw hn => exact .word (hword hw) hn
  | openQuote => exact absurd ⟨rfl, rfl⟩ hopen
  | stray _ hblank hquote hsign hpart => exact .stray _ hblank hquote hsign hpart

/-- Behind an open quote there is nothing. -/
theorem Shape.eq_nil_of_openQuote (h : Shape before kind text after)
    (hopen : kind = .invalid ∧ text.head? = some '"') : after = [] := by
  obtain ⟨rfl, hquote⟩ := hopen
  cases h with
  | sign _ hs => exact absurd hs (by simp [signs])
  | openQuote => rfl
  | stray _ _ hne => exact absurd (Option.some.inj hquote) hne

/-- **Scanning is compositional**: in front of a text that begins with a blank it finds what it
finds at the end of a line, provided that no quote is open there. -/
theorem scan_append {cs : List Char} (hopen : ∀ t ∈ (scan start cs).getLast?, ¬ t.IsOpenQuote)
    (htail : ∀ c ∈ tail.head?, Text.isBlank c = true) :
    scan start (cs ++ tail) = scan start cs ++ scan (start + Text.byteLength cs) tail := by
  fun_induction scan start cs with
  | case1 start cs hdrop => exact scan_blanks (List.dropWhile_eq_nil_iff.1 hdrop) start tail
  | case2 start cs c rest hdrop =>
    rename_i begin l ih
    have hblanks : ∀ b ∈ cs.takeWhile Text.isBlank, Text.isBlank b = true :=
      fun _ hm => List.mem_takeWhile_imp hm
    have hsplit : cs.takeWhile Text.isBlank ++ (l.text ++ l.rest) = cs := by
      rw [Lexeme.text_append_rest, ← hdrop, List.takeWhile_append_dropWhile]
    have hshape : Shape [] l.kind l.text l.rest :=
      shape_lexeme (Text.isBlank_of_dropWhile hdrop) (border_nil _)
    have hclosed : ¬ (l.kind = .invalid ∧ l.text.head? = some '"') := by
      intro hq
      -- an open quote would be the last token
      have hnil : scan (begin + Text.byteLength l.text) l.rest = [] := by
        rw [hshape.eq_nil_of_openQuote hq, scan_of_nil rfl]
      rw [hnil] at hopen
      exact hopen _ rfl (isOpenQuote_mk.2 hq)
    have hrest : ∀ t ∈ (scan (begin + Text.byteLength l.text) l.rest).getLast?,
        ¬ t.IsOpenQuote := by
      intro t ht
      refine hopen t ?_
      rw [List.getLast?_cons, Option.mem_def.1 ht]
      rfl
    have hfirst := scan_of_shape hblanks
      (hshape.append hclosed fun d hd => isWordPart_of_isBlank (htail d hd)) start
    have hlength : begin + Text.byteLength l.text + Text.byteLength l.rest =
        start + Text.byteLength cs := by
      rw [← hsplit, Text.byteLength_append, Text.byteLength_append]
      simp only [begin, Nat.add_assoc]
    calc scan start (cs ++ tail)
        = scan start (cs.takeWhile Text.isBlank ++ (l.text ++ (l.rest ++ tail))) := by
          rw [← List.append_assoc l.text, ← List.append_assoc, hsplit]
      _ = ⟨l.kind, begin, String.ofList l.text⟩ ::
            scan (begin + Text.byteLength l.text) (l.rest ++ tail) := hfirst
      _ = _ := by rw [ih hrest, hlength, List.cons_append]

/-! ## Asking for the next token again and again -/

/-- The tokens that are found by asking for the next one from a byte of a line on, each time where
the last one ended, until the end of the line is given. -/
inductive Gathers (line : String) : Nat → List Token → Prop
  | finish {index : Nat} : (nextFrom line index).kind = .finish →
      Gathers line index [nextFrom line index]
  | token {index : Nat} {later : List Token} : (nextFrom line index).kind ≠ .finish →
      Gathers line (nextFrom line index).stop later →
      Gathers line index (nextFrom line index :: later)

/-- There is one answer at most. -/
theorem Gathers.eq {line : String} {index : Nat} {ts us : List Token} (h : Gathers line index ts)
    (h' : Gathers line index us) : ts = us := by
  induction h generalizing us with
  | finish hfinish =>
    cases h' with
    | finish => rfl
    | token hne => exact absurd hfinish hne
  | token hne _ ih =>
    cases h' with
    | finish hfinish => exact absurd hfinish hne
    | token _ hlater => rw [ih hlater]

variable {line : String}

/-- The next token at the place between two parts of a line is the first one of the second part. -/
theorem nextFrom_eq (h : line.toList = before ++ rest) :
    nextFrom line (Text.byteLength before) = (scan (Text.byteLength before) rest ++
      [finishAt (Text.byteLength line.toList)]).headD (finishAt (Text.byteLength line.toList)) := by
  have hle : Text.byteLength before ≤ Text.byteLength line.toList := by
    rw [h, Text.byteLength_append]
    exact Nat.le_add_right _ _
  rw [nextFrom, Nat.min_eq_left hle, h, Text.dropBytes_byteLength_append, ← h]
  cases scan (Text.byteLength before) rest <;> rfl

/-- Asking on finds the tokens of the rest of the line. -/
theorem gathers_scan (h : line.toList = before ++ rest) :
    Gathers line (Text.byteLength before)
      (scan (Text.byteLength before) rest ++ [finishAt (Text.byteLength line.toList)]) := by
  generalize hstart : Text.byteLength before = start
  fun_induction scan start rest generalizing before with
  | case1 start rest hdrop =>
    have hnext := nextFrom_eq h
    rw [hstart, scan_of_nil hdrop] at hnext
    have hgathers := Gathers.finish (congrArg Token.kind hnext)
    rwa [hnext] at hgathers
  | case2 start rest c tail hdrop =>
    rename_i begin l ih
    have hnext := nextFrom_eq h
    rw [hstart, scan_of_cons hdrop] at hnext
    have hsplit : line.toList =
        before ++ rest.takeWhile Text.isBlank ++ l.text ++ l.rest := by
      rw [List.append_assoc, Lexeme.text_append_rest, ← hdrop, List.append_assoc,
        List.takeWhile_append_dropWhile, h]
    have hbehind : Text.byteLength (before ++ rest.takeWhile Text.isBlank ++ l.text) =
        begin + Text.byteLength l.text := by
      rw [Text.byteLength_append, Text.byteLength_append, hstart]
    have hfirst : nextFrom line start = ⟨l.kind, begin, String.ofList l.text⟩ := hnext
    have hstop : (nextFrom line start).stop = begin + Text.byteLength l.text := by
      rw [hfirst, stop, String.toList_ofList]
    have hkind : (nextFrom line start).kind ≠ .finish := by
      rw [hfirst]
      exact (shape_lexeme (Text.isBlank_of_dropWhile hdrop) (border_nil (c :: tail))).ne_finish
    have hlater := ih hsplit hbehind
    rw [← hstop] at hlater ⊢
    rw [← hfirst]
    exact .token hkind hlater

/-! ## Tokens of a part of a line -/

/-- The rest of a line has the tokens of a line of its own, further on. -/
theorem scan_append_finish (h : line.toList = before ++ rest) :
    scan (Text.byteLength before) rest ++ [finishAt (Text.byteLength line.toList)] =
      (tokenize (String.ofList rest)).map (shift (Text.byteLength before)) := by
  rw [tokenize, String.toList_ofList, List.map_append, List.map_singleton, shift_finishAt,
    scan_eq_map_shift, h, Text.byteLength_append]

/-- **Where asking begins anew**, it finds the tokens of the rest alone, further on. -/
theorem gathers_iff (h : line.toList = before ++ rest) {ts : List Token} :
    Gathers line (Text.byteLength before) ts ↔
      ts = (tokenize (String.ofList rest)).map (shift (Text.byteLength before)) := by
  have hscan := gathers_scan h
  rw [scan_append_finish h] at hscan
  constructor
  · intro hts
    exact hts.eq hscan
  · rintro rfl
    exact hscan

/-- Behind a token there is a rest of the line, and the tokens behind it are those of that rest. -/
theorem exists_rest_of_tokenize {earlier later : List Token} {t : Token}
    (h : tokenize line = earlier ++ t :: later) :
    ∃ before rest, line.toList = before ++ rest ∧ Text.byteLength before = t.stop ∧
      (t.kind ≠ .finish →
        later = (tokenize (String.ofList rest)).map (shift (Text.byteLength before))) := by
  rw [tokenize] at h
  rcases List.eq_nil_or_concat' later with rfl | ⟨middle, u, rfl⟩
  · -- the last token is the end of the line
    obtain ⟨-, hlast⟩ := List.append_inj' h rfl
    obtain rfl := (List.cons.inj hlast).1
    exact ⟨line.toList, [], (List.append_nil _).symm, rfl, fun hne => absurd rfl hne⟩
  · rw [← List.cons_append, ← List.append_assoc] at h
    obtain ⟨hscan, hlast⟩ := List.append_inj' h rfl
    obtain ⟨skipped, left, hline, hleft⟩ :=
      exists_of_suffix_scan (hscan ▸ List.suffix_append earlier (t :: middle))
    cases hdrop : left.dropWhile Text.isBlank with
    | nil =>
      rw [scan_of_nil hdrop] at hleft
      cases hleft
    | cons c more =>
      rw [scan_of_cons hdrop, Nat.zero_add, ← Text.byteLength_append] at hleft
      obtain ⟨rfl, rfl⟩ := List.cons.inj hleft
      have hsplit : line.toList =
          skipped ++ (left.takeWhile Text.isBlank ++ (lexeme c more).text) ++
            (lexeme c more).rest := by
        rw [hline, List.append_assoc, List.append_assoc, Lexeme.text_append_rest, ← hdrop,
          List.takeWhile_append_dropWhile]
      refine ⟨_, _, hsplit, ?_, fun _ => ?_⟩
      · rw [stop, String.toList_ofList, ← Text.byteLength_append, List.append_assoc]
      · rw [← scan_append_finish hsplit, hlast, Text.byteLength_append skipped]

/-- **Tokenizing is compositional.** Two texts with blanks between them have the tokens of the one
and then those of the other, further on by what stands in front, unless a quote is open where the
blanks begin. And at the end of any token the line can be taken up anew: the tokens behind it, and
what asking for the next one finds from there on, are those that the rest has as a line of its own,
further on. -/
theorem tokenize_compositional :
    (∀ a s b : String, s ≠ "" → Text.Blank s →
      (∀ t ∈ (tokenize a).dropLast.getLast?, ¬ t.IsOpenQuote) →
      tokenize (a ++ s ++ b) = (tokenize a).dropLast ++
        (tokenize b).map (shift (a.utf8ByteSize + s.utf8ByteSize))) ∧
    ∀ (line : String) (earlier later : List Token) (t : Token),
      tokenize line = earlier ++ t :: later →
      ∃ front rest : String, line = front ++ rest ∧ front.utf8ByteSize = t.stop ∧
        (t.kind ≠ .finish → later = (tokenize rest).map (shift t.stop)) ∧
        ∀ ts, Gathers line t.stop ts ↔ ts = (tokenize rest).map (shift t.stop) := by
  constructor
  · intro a s b hs hblank hopen
    have hne : s.toList ≠ [] := fun hnil => hs (String.toList_eq_nil_iff.1 hnil)
    obtain ⟨d, ds, hd⟩ := List.exists_cons_of_ne_nil hne
    have hfront : ∀ c ∈ (s.toList ++ b.toList).head?, Text.isBlank c = true := by
      intro c hc
      rw [hd, List.cons_append, List.head?_cons, Option.mem_some] at hc
      exact hc ▸ hblank d (by rw [hd]; exact List.mem_cons_self)
    have hline : (a ++ s ++ b).toList = a.toList ++ s.toList ++ b.toList := by
      rw [String.toList_append, String.toList_append]
    have htail := scan_append_finish hline
    rw [String.ofList_toList, Text.byteLength_append, Text.byteLength_toList,
      Text.byteLength_toList] at htail
    have hinit : (tokenize a).dropLast = scan 0 a.toList := List.dropLast_concat
    rw [hinit] at hopen ⊢
    rw [← htail, tokenize, hline, List.append_assoc, scan_append hopen hfront, Nat.zero_add,
      scan_blanks hblank, Text.byteLength_toList, Text.byteLength_toList, List.append_assoc]
  · intro line earlier later t h
    obtain ⟨before, rest, hline, hstop, hlater⟩ := exists_rest_of_tokenize h
    refine ⟨String.ofList before, String.ofList rest, ?_, ?_, ?_, fun ts => ?_⟩
    · rw [← String.ofList_append, ← hline, String.ofList_toList]
    · rw [← Text.byteLength_toList, String.toList_ofList, hstop]
    · rwa [hstop] at hlater
    · rw [← hstop]
      exact gathers_iff hline

/-- In `é "a\\"` the last backslash is escaped, so that the text is closed in front of the tab, and
the quote behind the tab is another one, which is open. From byte 8 on, where the text ends, only
that one is found. -/
theorem tokenize_compositional_escaped :
    ("\t" ≠ "" ∧ Text.Blank "\t" ∧
      (∀ t ∈ (tokenize "é \"a\\\\\"").dropLast.getLast?, ¬ t.IsOpenQuote) ∧
      tokenize ("é \"a\\\\\"" ++ "\t" ++ "\"") =
        [⟨.invalid, 0, "é"⟩, ⟨.quoted, 3, "\"a\\\\\""⟩, ⟨.invalid, 9, "\""⟩, finishAt 10]) ∧
    ∃ front rest : String, "é \"a\\\\\"\t\"" = front ++ rest ∧ front.utf8ByteSize = 8 ∧
      ([⟨.invalid, 9, "\""⟩, finishAt 10] : List Token) = (tokenize rest).map (shift 8) ∧
      ∀ ts, Gathers "é \"a\\\\\"\t\"" 8 ts ↔ ts = (tokenize rest).map (shift 8) := by
  have hopen : ∀ t ∈ (tokenize "é \"a\\\\\"").dropLast.getLast?, ¬ t.IsOpenQuote := by
    decide +kernel
  have hline : tokenize "é \"a\\\\\"\t\"" =
      [⟨.invalid, 0, "é"⟩] ++ ⟨.quoted, 3, "\"a\\\\\""⟩ ::
        [⟨.invalid, 9, "\""⟩, finishAt 10] := by decide +kernel
  obtain ⟨front, rest, hsplit, hsize, hlater, hgathers⟩ := tokenize_compositional.2 _ _ _ _ hline
  refine ⟨⟨by decide, by decide, hopen, ?_⟩, front, rest, hsplit, hsize, hlater (by decide),
    hgathers⟩
  rw [tokenize_compositional.1 _ _ _ (by decide) (by decide) hopen]
  decide +kernel

end DriverBench.Token
