import DriverBench.Proofs.Number.Numeral
import DriverBench.Proofs.Session.Saving
/-!
# Parts of files

A part of a file can be had in two ways: `file` takes it as the file is read, and `buffer` takes it
of the data that the whole file is. Both have rules of their own for a start beyond the end, for a
length that is zero and for one that goes beyond the end; they agree, for the buffer holds the same
bytes either way or cannot be made in either (`sliced_alike`).
-/

namespace DriverBench

open Device Number Simulator

namespace Reading

/-! ## What the tokens say -/

/-- A start or a length stands in a token, as a number of 64 bits. -/
def IsOffset (t : Token) (n : Nat) : Prop :=
  t.kind = .constant ∧ IntegerType.ulong.readNatural t.text = .ok n

/-- The name of a file stands in a token. -/
def NamesFile (t : Token) (name : String) : Prop :=
  (t.kind = .quoted ∨ t.kind = .word ∨ t.kind = .constant) ∧ t.wordOrText = .ok name

/-- A start and perhaps a length, each behind a comma. -/
inductive PartOf : List Token → Nat → Option Nat → Prop
  | behind {comma first : Token} {start : Nat} :
      comma.kind = .comma → IsOffset first start → PartOf [comma, first] start none
  | part {comma first comma' second : Token} {start length : Nat} :
      comma.kind = .comma → IsOffset first start → comma'.kind = .comma → IsOffset second length →
      PartOf [comma, first, comma', second] start (some length)

/-- A word with arguments in parentheses. -/
inductive CallOf (keyword : String) (arguments : List Token) : List Token → Prop
  | mk {word opening closing : Token} : word.kind = .word → word.text = keyword →
      opening.kind = .openParen → closing.kind = .closeParen →
      CallOf keyword arguments (word :: opening :: arguments ++ [closing])

/-- The tokens of `buffer(file(NAME, start, length))`, with a length or without. -/
inductive SlicesFile (name : String) (start : Nat) (length : Option Nat) : List Token → Prop
  | mk {t : Token} {part file tokens : List Token} : NamesFile t name → PartOf part start length →
      CallOf "file" (t :: part) file → CallOf "buffer" file tokens →
      SlicesFile name start length tokens

/-- The tokens of `buffer(file(NAME, 0), start, length)`, with a length or without. -/
inductive SlicesBuffer (name : String) (start : Nat) (length : Option Nat) : List Token → Prop
  | mk {t : Token} {whole file part tokens : List Token} : NamesFile t name →
      PartOf whole 0 none → CallOf "file" (t :: whole) file → PartOf part start length →
      CallOf "buffer" (file ++ part) tokens → SlicesBuffer name start length tokens

/-- The place behind a part of bytes: the end of all of them, if that comes first. -/
def stopOf (size start : Nat) : Option Nat → Nat
  | some length => min (start + length) size
  | none => size

/-- A part of bytes. -/
def partOf (bytes : List UInt8) (start : Nat) (length : Option Nat) : List UInt8 :=
  (bytes.take (stopOf bytes.length start length)).drop start

variable {bytes : List UInt8} {start n : Nat} {length : Option Nat} {t : Token}

/-- Sizes are numbers of 64 bits too. -/
theorem IsOffset.isSize (h : IsOffset t n) : IsSize t n := by
  refine ⟨h.1, ?_⟩
  have hn := h.2
  unfold IntegerType.readNatural at hn ⊢
  cases hread : IntegerType.ulong.read t.text with
  | error e =>
    rw [hread] at hn
    cases hn
  | ok v =>
    have hsize : IntegerType.size.read t.text = .ok v :=
      IntegerType.read_of_holds_imp (T := .ulong) id hread
    rw [hread] at hn
    rw [hsize]
    exact hn

/-! ## Parts of bytes -/

theorem partOf_none (bytes : List UInt8) (start : Nat) :
    partOf bytes start none = bytes.drop start := by
  rw [partOf, stopOf, List.take_length]

theorem partOf_some (hstart : start ≤ bytes.length) (n : Nat) :
    partOf bytes start (some n) = slice bytes start n := by
  have hstop : min (start + n) bytes.length - start = min n (bytes.length - start) := by omega
  rw [partOf, stopOf, List.drop_take, hstop, ← List.length_drop]
  exact List.take_eq_take_min.symm

theorem stopOf_le (size start : Nat) (length : Option Nat) : stopOf size start length ≤ size := by
  cases length <;> simp [stopOf]

theorem length_partOf :
    (partOf bytes start length).length = stopOf bytes.length start length - start := by
  rw [partOf, List.length_drop, List.length_take_of_le (stopOf_le _ _ _)]

/-- There is something between a start and a stop. -/
theorem partOf_ne_nil (hstart : start < bytes.length) (hlength : length ≠ some 0) :
    partOf bytes start length ≠ [] := by
  have hstop : start < stopOf bytes.length start length := by
    cases length with
    | none => exact hstart
    | some n =>
      have hn : n ≠ 0 := fun hzero => hlength (congrArg some hzero)
      rw [stopOf]
      omega
  have hcount : (partOf bytes start length).length = _ := length_partOf
  rw [← List.length_pos_iff]
  omega

/-- All of the bytes are the part of them from the first one on. -/
theorem slice_all (bytes : List UInt8) : slice bytes 0 bytes.length = bytes := by
  rw [slice, List.drop_zero, List.take_length]

/-! ## Files -/

section File

variable {files : Files.FileTree} {name : String}

theorem load_of_lt (h : files.opened name = .ok (.file bytes)) (hstart : start < bytes.length) :
    files.load name start length = .ok (partOf bytes start length) := by
  have hne : bytes.isEmpty = false := by
    rw [List.isEmpty_eq_false_iff]
    rintro rfl
    exact absurd hstart (Nat.not_lt_zero _)
  unfold Files.FileTree.load
  rw [h]
  change (if bytes.isEmpty = true then _ else if bytes.length ≤ start then _ else _) = _
  rw [hne, if_neg (by simp), if_neg (Nat.not_le.2 hstart)]
  cases length with
  | none => rw [partOf_none]
  | some n => rw [partOf_some hstart.le]; rfl

theorem exists_error_of_load (h : files.opened name = .ok (.file bytes))
    (hstart : bytes.length ≤ start) (length : Option Nat) :
    ∃ e, files.load name start length = .error e := by
  unfold Files.FileTree.load
  rw [h]
  change ∃ e, (if bytes.isEmpty = true then _ else if bytes.length ≤ start then _ else _) = _
  by_cases hempty : bytes.isEmpty = true
  · rw [if_pos hempty]
    exact ⟨_, rfl⟩
  · rw [if_neg hempty, if_pos hstart]
    exact ⟨_, rfl⟩

end File

section Line

variable {name line : String} {s : Session} {part file arguments ahead rest : List Token}

theorem gives_fileName (h : NamesFile t name) :
    Gives fileName ⟨line, t :: rest⟩ s (name, t) ⟨line, rest⟩ s := by
  obtain ⟨hkind, hname⟩ := h
  have hgiven : Gives (do
      let name ← lift t.wordOrText
      return (name, t)) ⟨line, rest⟩ s (name, t) ⟨line, rest⟩ s :=
    (gives_lift hname).bind (gives_pure _)
  refine gives_consume.bind ?_
  rcases hkind with hkind | hkind | hkind <;> rw [hkind] <;> exact hgiven

/-- **The part of a file** that is asked for is found. -/
theorem gives_filePart (h : PartOf part start length) (hlength : length ≠ some 0) {close : Token}
    (hclose : close.kind = .closeParen) :
    ∃ first, Gives filePart ⟨line, part ++ close :: rest⟩ s ⟨some (start, first), length⟩
      ⟨line, close :: rest⟩ s := by
  cases h with
  | @behind comma first _ hcomma hfirst =>
    refine ⟨first, (gives_skip hcomma).bind ((gives_numberArgument hfirst.1 hfirst.2).bind ?_)⟩
    refine (gives_skip_of_ne ?_).bind (gives_pure _)
    rw [hclose]
    decide
  | @part comma first comma' second _ requested hcomma hfirst hcomma' hsecond =>
    have hne : requested ≠ 0 := fun hzero => hlength (congrArg some hzero)
    have hasked : Gives (lengthArgument .ulong) ⟨line, second :: close :: rest⟩ s requested
        ⟨line, close :: rest⟩ s := by
      refine (gives_numberArgument hsecond.1 hsecond.2).bind ?_
      dsimp only
      rw [if_neg hne]
      exact gives_pure _
    refine ⟨first, (gives_skip hcomma).bind ((gives_numberArgument hfirst.1 hfirst.2).bind ?_)⟩
    exact (gives_skip hcomma').bind (hasked.bind (gives_pure _))

theorem fails_lengthArgument {type : IntegerType} (hkind : t.kind = .constant)
    (hzero : type.readNatural t.text = .ok 0) : Fails (lengthArgument type) ⟨line, t :: rest⟩ s :=
  (gives_numberArgument hkind hzero).bind_fails (fails_raise _ _)

theorem fails_filePart (h : PartOf part start (some 0)) :
    Fails filePart ⟨line, part ++ rest⟩ s := by
  cases h with
  | part hcomma hfirst hcomma' hsecond =>
    refine (gives_skip hcomma).bind_fails
      ((gives_numberArgument hfirst.1 hfirst.2).bind_fails ?_)
    exact (gives_skip hcomma').bind_fails (fails_lengthArgument hsecond.1 hsecond.2).bind

theorem gives_noteCutFile (hout : s.out.broken = none) (part : FilePart) (available : Nat)
    (c : Cursor) : ∃ out, Gives (noteCutFile part available) c s () c
      { s with out := { s.out with text := out } } := by
  unfold noteCutFile
  split
  · next requested _ =>
    by_cases hcut : available < requested
    · obtain ⟨out, heq⟩ := s.tell_eq (cutNote "ファイル" requested available)
      refine ⟨out, ?_⟩
      rw [if_pos hcut, ← heq]
      exact gives_note (fun _ => hout) c
    · refine ⟨s.out.text, ?_⟩
      rw [if_neg hcut]
      exact gives_pure _
  · exact ⟨s.out.text, gives_pure _⟩

/-- What is in parentheses stands in front of the closing one. -/
theorem CallOf.cases_append {keyword : String} {tokens : List Token}
    (h : CallOf keyword arguments tokens) (rest : List Token) :
    ∃ word opening closing, word.kind = .word ∧ word.text = keyword ∧ opening.kind = .openParen ∧
      closing.kind = .closeParen ∧
      tokens ++ rest = word :: opening :: (arguments ++ closing :: rest) := by
  cases h with
  | @mk word opening closing hword htext hopening hclosing =>
    refine ⟨word, opening, closing, hword, htext, hopening, hclosing, ?_⟩
    simp only [List.cons_append, List.append_assoc, List.nil_append]

/-- **A part of a file** is what the expression for it denotes. -/
theorem gives_file (line : String) (rest : List Token) (hfree : s.env.lookup "file" = none)
    (hopened : s.files.opened name = .ok (.file bytes)) (hout : s.out.broken = none)
    (hname : NamesFile t name) (hpart : PartOf part start length)
    (hfile : CallOf "file" (t :: part) file) (hstart : start < bytes.length)
    (hlength : length ≠ some 0) :
    ∃ out, Gives evaluate ⟨line, file ++ rest⟩ s
      ⟨s.entities, .data ⟨partOf bytes start length, name⟩⟩ ⟨line, rest⟩
      { s with out := { s.out with text := out }, entities := s.entities + 1 } := by
  obtain ⟨word, opening, closing, hword, htext, hopening, hclosing, htokens⟩ :=
    hfile.cases_append rest
  have hkeyword : Constructor.ofKeyword? word.text = some .file := by
    rw [htext]
    decide
  obtain ⟨first, hfound⟩ := @gives_filePart _ _ line s part rest hpart hlength closing hclosing
  let asked : FilePart := ⟨some (start, first), length⟩
  obtain ⟨out, hnote⟩ := gives_noteCutFile hout asked (partOf bytes start length).length
    ⟨line, rest⟩
  have hload : Gives (loadPart name t asked) ⟨line, rest⟩ s (partOf bytes start length)
      ⟨line, rest⟩ s := by
    have hbytes : s.files.load name ((asked.start.map Prod.fst).getD 0) asked.length = _ :=
      load_of_lt hopened hstart
    refine gives_session.bind ?_
    rw [hbytes]
    exact gives_pure _
  have hobject : Gives fileObject ⟨line, t :: (part ++ closing :: rest)⟩ s
      (.data ⟨partOf bytes start length, name⟩) ⟨line, rest⟩
      { s with out := { s.out with text := out } } :=
    (gives_fileName hname).bind (hfound.bind ((gives_closeArguments hclosing).bind
      (hload.bind (hnote.bind (gives_pure _)))))
  refine ⟨out, ?_⟩
  rw [htokens]
  exact gives_evaluate_of_construct hword (htext ▸ hfree) hkeyword
    ((gives_openArguments hopening).bind hobject)

theorem fails_file (line : String) (rest : List Token) (hfree : s.env.lookup "file" = none)
    (hopened : s.files.opened name = .ok (.file bytes)) (hname : NamesFile t name)
    (hpart : PartOf part start length) (hfile : CallOf "file" (t :: part) file)
    (h : bytes.length ≤ start ∨ length = some 0) : Fails evaluate ⟨line, file ++ rest⟩ s := by
  obtain ⟨word, opening, closing, hword, htext, hopening, hclosing, htokens⟩ :=
    hfile.cases_append rest
  have hkeyword : Constructor.ofKeyword? word.text = some .file := by
    rw [htext]
    decide
  have hobject : Fails fileObject ⟨line, t :: (part ++ closing :: rest)⟩ s := by
    refine (gives_fileName hname).bind_fails ?_
    by_cases hzero : length = some 0
    · subst hzero
      exact (fails_filePart hpart).bind
    · have hstart : bytes.length ≤ start := h.resolve_right hzero
      obtain ⟨first, hfound⟩ := @gives_filePart _ _ line s part rest hpart hzero closing hclosing
      let asked : FilePart := ⟨some (start, first), length⟩
      have hload : ∃ e, s.files.load name ((asked.start.map Prod.fst).getD 0) asked.length =
          .error e := exists_error_of_load hopened hstart length
      obtain ⟨e, hload⟩ := hload
      refine hfound.bind_fails ((gives_closeArguments hclosing).bind_fails (Fails.bind ?_))
      refine gives_session.bind_fails ?_
      rw [hload]
      exact fails_raise _ _
  rw [htokens]
  exact fails_evaluate_of_construct hword (htext ▸ hfree) hkeyword
    ((gives_openArguments hopening).bind_fails hobject)

/-! ## Buffers -/

/-- What is asked for of data of a size is the same part of the bytes as `file` takes. -/
theorem PartOf.exists_asksFor (h : PartOf part start length) (rest : List Token)
    (hstart : start < bytes.length) (hlength : length ≠ some 0) {close : Token}
    (hclose : close.kind = .closeParen) :
    ∃ count cut, AsksFor bytes.length (part ++ close :: rest) start count cut rest ∧
      slice bytes start count = partOf bytes start length := by
  cases h with
  | behind hcomma hfirst =>
    refine ⟨_, _, .behind hcomma hfirst.isSize hstart hclose, ?_⟩
    rw [partOf_none, slice, ← List.length_drop, List.take_length]
  | @part comma first comma' second _ requested hcomma hfirst hcomma' hsecond =>
    have hne : requested ≠ 0 := fun hzero => hlength (congrArg some hzero)
    refine ⟨_, _, .part hcomma hfirst.isSize hstart hcomma' hsecond.isSize hne hclose, ?_⟩
    rw [partOf_some hstart.le, slice, slice, ← List.length_drop]
    exact List.take_eq_take_min.symm

theorem fails_dataPart {size : Nat} (h : PartOf part start length)
    (hnone : size ≤ start ∨ length = some 0) : Fails (dataPart size) ⟨line, part ++ rest⟩ s := by
  unfold dataPart
  cases h with
  | behind hcomma hfirst =>
    have hstart : size ≤ start := hnone.resolve_right nofun
    refine (gives_skip hcomma).bind_fails ((gives_sizeArgument hfirst.isSize).bind_fails ?_)
    dsimp only
    rw [if_pos hstart]
    exact (fails_raise _ _).bind
  | part hcomma hfirst hcomma' hsecond =>
    refine (gives_skip hcomma).bind_fails ((gives_sizeArgument hfirst.isSize).bind_fails ?_)
    dsimp only
    by_cases hstart : size ≤ start
    · rw [if_pos hstart]
      exact (fails_raise _ _).bind
    · obtain rfl : _ = 0 := Option.some.inj (hnone.resolve_left hstart)
      rw [if_neg hstart]
      have hzero := hsecond.isSize
      exact (gives_skip hcomma').bind_fails (fails_lengthArgument hzero.1 hzero.2).bind

/-- **What is taken of data lies in it**, so its end is no greater number than the size is. -/
theorem end_le_of_dataPart {size count : Nat} {c c' : Cursor} {s' : Session}
    (h : Gives (dataPart size) c s (start, count) c' s') : start + count ≤ size := by
  obtain ⟨commaAhead, c₁, s₁, -, h⟩ := h.exists_of_bind
  cases commaAhead with
  | false =>
    cases h
    omega
  | true =>
    obtain ⟨⟨first, t⟩, c₂, s₂, -, h⟩ := h.exists_of_bind
    obtain ⟨hstart, h⟩ := h.of_guard
    obtain ⟨commaAhead, c₃, s₃, -, h⟩ := h.exists_of_bind
    cases commaAhead with
    | false =>
      cases h
      omega
    | true =>
      obtain ⟨requested, c₄, s₄, -, h⟩ := h.exists_of_bind
      dsimp only at h
      split at h
      · obtain ⟨_, c₅, s₅, -, h⟩ := h.exists_of_bind
        cases h
        omega
      · cases h
        omega

/-- A buffer is not made where its source is not found or the part of it that is asked for is not
there. -/
theorem fails_buffer {word opening : Token} (hword : word.kind = .word)
    (htext : word.text = "buffer") (hfree : s.env.lookup "buffer" = none)
    (hopening : opening.kind = .openParen) (hdriver : s.driver?.isSome) (hkind : t.kind = .word)
    (h : Fails (evaluate >>= fun source => holding source (filledBuffer t source))
      ⟨line, t :: rest⟩ s) :
    Fails evaluate ⟨line, word :: opening :: t :: rest⟩ s := by
  have hkeyword : Constructor.ofKeyword? word.text = some (.derived .buffer) := by
    rw [htext]
    decide
  have hobject : Fails (derivedObject .buffer evaluate) ⟨line, t :: rest⟩ s := by
    refine gives_current.bind_fails ?_
    rw [hkind]
    exact h
  exact fails_evaluate_of_construct hword (htext ▸ hfree) hkeyword
    ((gives_requireDriver hdriver).bind_fails ((gives_openArguments hopening).bind_fails hobject))

end Line

end Reading

namespace Session

open Reading

section Made

variable {s s₁ : Session} {line name : String} {bytes : List UInt8} {start first count : Nat}
  {length : Option Nat} {cut : Prop} {tokens rest : List Token}

/-- A buffer holds the part of data that is asked for. -/
theorem makes_of_asksFor {word opening : Token} {source : Entity} {data : Data}
    {arguments ahead : List Token} (hdriver : s.driver?.isSome)
    (hfree : s.env.lookup "buffer" = none) (hword : word.kind = .word)
    (htext : word.text = "buffer") (hopening : opening.kind = .openParen)
    (hsource : Gives Reading.evaluate ⟨line, arguments⟩ s source ⟨line, ahead⟩ s₁)
    (hdata : source.object.data? = some data) (hdriver₁ : s₁.driver?.isSome)
    (hout : s₁.out.broken = none) (hne : data.bytes ≠ [])
    (hlt : data.bytes.length < allocationLimit)
    (hasks : AsksFor data.bytes.length ahead first count cut rest) :
    s.Makes line (word :: opening :: arguments) rest fun t m =>
      t.Stores m none (slice data.bytes first count) := by
  have hkeyword : Constructor.ofKeyword? word.text = some (.derived .buffer) := by
    rw [htext]
    decide
  have hmade : ∀ operand, ∃ m s₂, Gives (filledBuffer operand source) ⟨line, ahead⟩ s₁ (.memory m)
      ⟨line, rest⟩ s₂ ∧ s₂.Stores m none (slice data.bytes first count) :=
    fun operand => gives_filledBuffer hdata hdriver₁ hne hlt hasks fun _ _ => hout
  exact makes_of_gives (d := .buffer) rfl hdriver hword hkeyword (htext ▸ hfree) hopening hsource
    (handle?_of_data? hdata) hmade fun _ _ h => h

/-- The buffer of a part that is taken as the file is read. -/
theorem makes_of_slicesFile (hdriver : s.driver?.isSome) (hout : s.out.broken = none)
    (hbuffer : s.env.lookup "buffer" = none) (hfile : s.env.lookup "file" = none)
    (hopened : s.files.opened name = .ok (.file bytes)) (hlt : bytes.length < allocationLimit)
    (htokens : SlicesFile name start length tokens) (hstart : start < bytes.length)
    (hlength : length ≠ some 0) :
    s.Makes line (tokens ++ rest) rest fun t m => t.Stores m none (partOf bytes start length) := by
  obtain ⟨hname, hpart, hinner, houter⟩ := htokens
  obtain ⟨word, opening, closing, hword, htext, hopening, hclosing, heq⟩ :=
    houter.cases_append rest
  obtain ⟨out, hsource⟩ := gives_file line (closing :: rest) hfile hopened hout
    hname hpart hinner hstart hlength
  have hshort : (partOf bytes start length).length < allocationLimit := by
    rw [length_partOf]
    have := stopOf_le bytes.length start length
    omega
  rw [heq, ← slice_all (partOf bytes start length)]
  exact makes_of_asksFor hdriver hbuffer hword htext hopening hsource rfl hdriver hout
    (partOf_ne_nil hstart hlength) hshort (.whole hclosing)

/-- The buffer of a part that is taken of all the data of the file. -/
theorem makes_of_slicesBuffer (hdriver : s.driver?.isSome) (hout : s.out.broken = none)
    (hbuffer : s.env.lookup "buffer" = none) (hfile : s.env.lookup "file" = none)
    (hopened : s.files.opened name = .ok (.file bytes)) (hlt : bytes.length < allocationLimit)
    (htokens : SlicesBuffer name start length tokens) (hstart : start < bytes.length)
    (hlength : length ≠ some 0) :
    s.Makes line (tokens ++ rest) rest fun t m => t.Stores m none (partOf bytes start length) := by
  obtain @⟨t, whole, file, part, _, hname, hwhole, hinner, hpart, houter⟩ := htokens
  obtain ⟨word, opening, closing, hword, htext, hopening, hclosing, heq⟩ :=
    houter.cases_append rest
  obtain ⟨out, hsource⟩ := gives_file line (part ++ closing :: rest) hfile
    hopened hout hname hwhole hinner (by omega) nofun
  obtain ⟨count, cut, hasks, hslice⟩ := hpart.exists_asksFor rest hstart hlength hclosing
  rw [partOf_none, List.drop_zero] at hsource
  rw [heq, List.append_assoc, ← hslice]
  have hne : bytes ≠ [] := List.ne_nil_of_length_pos (Nat.zero_lt_of_lt hstart)
  exact makes_of_asksFor hdriver hbuffer hword htext hopening hsource rfl hdriver hout hne hlt hasks

theorem fails_of_slicesFile (hdriver : s.driver?.isSome)
    (hbuffer : s.env.lookup "buffer" = none) (hfile : s.env.lookup "file" = none)
    (hopened : s.files.opened name = .ok (.file bytes))
    (htokens : SlicesFile name start length tokens)
    (hnone : bytes.length ≤ start ∨ length = some 0) :
    Fails Reading.evaluate ⟨line, tokens ++ rest⟩ s := by
  obtain ⟨hname, hpart, hinner, houter⟩ := htokens
  obtain ⟨word, opening, closing, hword, htext, hopening, -, heq⟩ := houter.cases_append rest
  obtain ⟨inner, _, _, hkind, -, -, -, hfirst⟩ := hinner.cases_append (closing :: rest)
  have hoperand := fails_file line (closing :: rest) hfile hopened hname hpart
    hinner hnone
  rw [hfirst] at hoperand
  rw [heq, hfirst]
  exact fails_buffer hword htext hbuffer hopening hdriver hkind hoperand.bind

theorem fails_of_slicesBuffer (hdriver : s.driver?.isSome) (hout : s.out.broken = none)
    (hbuffer : s.env.lookup "buffer" = none) (hfile : s.env.lookup "file" = none)
    (hopened : s.files.opened name = .ok (.file bytes))
    (htokens : SlicesBuffer name start length tokens)
    (hnone : bytes.length ≤ start ∨ length = some 0) :
    Fails Reading.evaluate ⟨line, tokens ++ rest⟩ s := by
  obtain @⟨t, whole, file, part, _, hname, hwhole, hinner, hpart, houter⟩ := htokens
  obtain ⟨word, opening, closing, hword, htext, hopening, -, heq⟩ := houter.cases_append rest
  obtain ⟨inner, _, _, hkind, -, -, -, hfirst⟩ := hinner.cases_append (part ++ closing :: rest)
  have hoperand : Fails (Reading.evaluate >>= fun source =>
      holding source (filledBuffer inner source)) ⟨line, file ++ (part ++ closing :: rest)⟩ s := by
    rcases Nat.eq_zero_or_pos bytes.length with hempty | hpos
    · exact (fails_file line _ hfile hopened hname hwhole hinner (.inl hempty.le)).bind
    · -- The whole file is there, so it is the part of its data that is not.
      obtain ⟨out, hsource⟩ := gives_file line (part ++ closing :: rest) hfile
        hopened hout hname hwhole hinner hpos nofun
      refine hsource.bind_fails (Fails.holding (Fails.bind ?_) _)
      rw [partOf_none, List.drop_zero]
      exact fails_dataPart hpart hnone
  rw [hfirst] at hoperand
  rw [heq, List.append_assoc, hfirst]
  exact fails_buffer hword htext hbuffer hopening hdriver hkind hoperand

end Made

/-- **A part of a file and a part of its data are the same buffer.** Where a driver is in use, the
output works, both words are free and a file can be read and held: a part of the file that is taken
as it is read, and the part with the same start and length that is taken of all its data, are made
into buffers that hold the same bytes, those from the start up to the stop, or the end of the file
if that comes first. Neither can be made if the file is empty, the start is not in it, or the length
is zero, and only then. Whatever part of data is asked for, the sum of its start and its length is
no greater than the size of the data. -/
theorem sliced_alike {s : Session} {name line line' : String} {bytes : List UInt8} {start : Nat}
    {length : Option Nat} {tokens tokens' rest rest' : List Token} (hdriver : s.driver?.isSome)
    (hout : s.out.broken = none) (hbuffer : s.env.lookup "buffer" = none)
    (hfile : s.env.lookup "file" = none) (hopened : s.files.opened name = .ok (.file bytes))
    (hlt : bytes.length < allocationLimit) (htokens : SlicesFile name start length tokens)
    (htokens' : SlicesBuffer name start length tokens') :
    (¬ (bytes = [] ∨ bytes.length ≤ start ∨ length = some 0) →
      (s.Makes line (tokens ++ rest) rest fun t m => t.Stores m none (partOf bytes start length)) ∧
      s.Makes line' (tokens' ++ rest') rest' fun t m =>
        t.Stores m none (partOf bytes start length)) ∧
    (bytes = [] ∨ bytes.length ≤ start ∨ length = some 0 →
      Fails Reading.evaluate ⟨line, tokens ++ rest⟩ s ∧
      Fails Reading.evaluate ⟨line', tokens' ++ rest'⟩ s) ∧
    ∀ size c t first count c' t', (dataPart size).run c t = ((.ok (first, count), c'), t') →
      first + count ≤ size := by
  refine ⟨fun hsome => ?_, fun hnone => ?_, fun _ _ _ _ _ _ _ h => end_le_of_dataPart h⟩
  · simp only [not_or, Nat.not_le] at hsome
    obtain ⟨-, hstart, hlength⟩ := hsome
    exact ⟨makes_of_slicesFile hdriver hout hbuffer hfile hopened hlt htokens hstart hlength,
      makes_of_slicesBuffer hdriver hout hbuffer hfile hopened hlt htokens' hstart hlength⟩
  · have hnone' : bytes.length ≤ start ∨ length = some 0 := by
      rcases hnone with rfl | hnone
      · exact .inl (Nat.zero_le _)
      · exact hnone
    exact ⟨fails_of_slicesFile hdriver hbuffer hfile hopened htokens hnone',
      fails_of_slicesBuffer hdriver hout hbuffer hfile hopened htokens' hnone'⟩

/-- A session with a driver and a file of four bytes. -/
def withFile : Session :=
  { after [] with files := ⟨[(["f"], .file [1, 2, 3, 4])], []⟩ }

/-- A length beyond the end of the file is cut in either way, and a start at its end is refused. -/
theorem sliced_alike_of_cut :
    ((withFile.Makes "buffer(file(f, 1, 9))" (Cursor.ofLine "buffer(file(f, 1, 9))").pending []
        fun t m => t.Stores m none [2, 3, 4]) ∧
      withFile.Makes "buffer(file(f, 0), 1, 9)" (Cursor.ofLine "buffer(file(f, 0), 1, 9)").pending
        [] fun t m => t.Stores m none [2, 3, 4]) ∧
    Fails Reading.evaluate (Cursor.ofLine "buffer(file(f, 4))") withFile ∧
    Fails Reading.evaluate (Cursor.ofLine "buffer(file(f, 0), 4)") withFile := by
  have hzero : IntegerType.ulong.readNatural "0" = .ok 0 := by decide +kernel
  have hone : IntegerType.ulong.readNatural "1" = .ok 1 := by decide +kernel
  have hfour : IntegerType.ulong.readNatural "4" = .ok 4 := by decide +kernel
  have hnine : IntegerType.ulong.readNatural "9" = .ok 9 := by decide +kernel
  have hname : NamesFile ⟨.word, 12, "f"⟩ "f" := ⟨.inr (.inl rfl), rfl⟩
  have hfront : PartOf [⟨.comma, 13, ","⟩, ⟨.constant, 15, "0"⟩] 0 none := .behind rfl ⟨rfl, hzero⟩
  -- The tokens are written as the calls divide them.
  have hcutFile : SlicesFile "f" 1 (some 9) (Cursor.ofLine "buffer(file(f, 1, 9))").pending := by
    have htokens : (Cursor.ofLine "buffer(file(f, 1, 9))").pending =
        ⟨.word, 0, "buffer"⟩ :: ⟨.openParen, 6, "("⟩ ::
          (⟨.word, 7, "file"⟩ :: ⟨.openParen, 11, "("⟩ ::
            (⟨.word, 12, "f"⟩ :: [⟨.comma, 13, ","⟩, ⟨.constant, 15, "1"⟩, ⟨.comma, 16, ","⟩,
              ⟨.constant, 18, "9"⟩]) ++ [⟨.closeParen, 19, ")"⟩]) ++
          [⟨.closeParen, 20, ")"⟩] := by decide +kernel
    have hpart : PartOf [⟨.comma, 13, ","⟩, ⟨.constant, 15, "1"⟩, ⟨.comma, 16, ","⟩,
        ⟨.constant, 18, "9"⟩] 1 (some 9) := .part rfl ⟨rfl, hone⟩ rfl ⟨rfl, hnine⟩
    rw [htokens]
    exact .mk hname hpart (.mk rfl rfl rfl rfl) (.mk rfl rfl rfl rfl)
  have hcutBuffer : SlicesBuffer "f" 1 (some 9)
      (Cursor.ofLine "buffer(file(f, 0), 1, 9)").pending := by
    have htokens : (Cursor.ofLine "buffer(file(f, 0), 1, 9)").pending =
        ⟨.word, 0, "buffer"⟩ :: ⟨.openParen, 6, "("⟩ ::
          ((⟨.word, 7, "file"⟩ :: ⟨.openParen, 11, "("⟩ ::
            (⟨.word, 12, "f"⟩ :: [⟨.comma, 13, ","⟩, ⟨.constant, 15, "0"⟩]) ++
              [⟨.closeParen, 16, ")"⟩]) ++
            [⟨.comma, 17, ","⟩, ⟨.constant, 19, "1"⟩, ⟨.comma, 20, ","⟩, ⟨.constant, 22, "9"⟩]) ++
          [⟨.closeParen, 23, ")"⟩] := by decide +kernel
    have hpart : PartOf [⟨.comma, 17, ","⟩, ⟨.constant, 19, "1"⟩, ⟨.comma, 20, ","⟩,
        ⟨.constant, 22, "9"⟩] 1 (some 9) := .part rfl ⟨rfl, hone⟩ rfl ⟨rfl, hnine⟩
    rw [htokens]
    exact .mk hname hfront (.mk rfl rfl rfl rfl) hpart (.mk rfl rfl rfl rfl)
  have hendFile : SlicesFile "f" 4 none (Cursor.ofLine "buffer(file(f, 4))").pending := by
    have htokens : (Cursor.ofLine "buffer(file(f, 4))").pending =
        ⟨.word, 0, "buffer"⟩ :: ⟨.openParen, 6, "("⟩ ::
          (⟨.word, 7, "file"⟩ :: ⟨.openParen, 11, "("⟩ ::
            (⟨.word, 12, "f"⟩ :: [⟨.comma, 13, ","⟩, ⟨.constant, 15, "4"⟩]) ++
              [⟨.closeParen, 16, ")"⟩]) ++
          [⟨.closeParen, 17, ")"⟩] := by decide +kernel
    have hpart : PartOf [⟨.comma, 13, ","⟩, ⟨.constant, 15, "4"⟩] 4 none :=
      .behind rfl ⟨rfl, hfour⟩
    rw [htokens]
    exact .mk hname hpart (.mk rfl rfl rfl rfl) (.mk rfl rfl rfl rfl)
  have hendBuffer : SlicesBuffer "f" 4 none (Cursor.ofLine "buffer(file(f, 0), 4)").pending := by
    have htokens : (Cursor.ofLine "buffer(file(f, 0), 4)").pending =
        ⟨.word, 0, "buffer"⟩ :: ⟨.openParen, 6, "("⟩ ::
          ((⟨.word, 7, "file"⟩ :: ⟨.openParen, 11, "("⟩ ::
            (⟨.word, 12, "f"⟩ :: [⟨.comma, 13, ","⟩, ⟨.constant, 15, "0"⟩]) ++
              [⟨.closeParen, 16, ")"⟩]) ++ [⟨.comma, 17, ","⟩, ⟨.constant, 19, "4"⟩]) ++
          [⟨.closeParen, 20, ")"⟩] := by decide +kernel
    have hpart : PartOf [⟨.comma, 17, ","⟩, ⟨.constant, 19, "4"⟩] 4 none :=
      .behind rfl ⟨rfl, hfour⟩
    rw [htokens]
    exact .mk hname hfront (.mk rfl rfl rfl rfl) hpart (.mk rfl rfl rfl rfl)
  have hopened : withFile.files.opened "f" = .ok (.file [1, 2, 3, 4]) := by
    have hparts : Files.parts "f" = ["f"] := by
      simp +decide [Files.parts, String.splitOn, String.splitOnAux]
    rw [Files.FileTree.opened, Files.FileTree.resolve, hparts]
    rfl
  have hlimit : ([1, 2, 3, 4] : List UInt8).length < allocationLimit := by decide
  have hcut := @sliced_alike withFile "f" "buffer(file(f, 1, 9))" "buffer(file(f, 0), 1, 9)" _ 1
    (some 9) _ _ [] [] rfl rfl rfl rfl hopened hlimit hcutFile hcutBuffer
  have hend := @sliced_alike withFile "f" "buffer(file(f, 4))" "buffer(file(f, 0), 4)" _ 4 none _ _
    [] [] rfl rfl rfl rfl hopened hlimit hendFile hendBuffer
  simp only [List.append_nil] at hcut hend
  exact ⟨hcut.1 (by simp), hend.2.1 (.inr (.inl le_rfl))⟩

end Session

end DriverBench
