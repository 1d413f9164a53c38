import Mathlib.Data.List.Forall2
import DriverBench.Proofs.Command.Execute
import DriverBench.Proofs.Session.Reached
/-!
# Abbreviated names

An abbreviation is resolved by the places of the candidates that start with it; the names that are
shown where it is ambiguous are picked from the list a second time. What it resolves to depends on
how many such candidates there are: with none it is not found, with one it stands for that one, and
with more it is ambiguous. A longer text has fewer of them and a longer list has more, so that
neither typing on nor a new candidate leads from one candidate to another
(`resolution_never_switches`).
-/

namespace DriverBench

namespace Text

/-! ## One letter in two cases -/

/-- Two characters are one, or the capital and the small form of an ASCII letter. -/
def SameLetter (c d : Char) : Prop :=
  c = d ∨ ('A' ≤ c ∧ c ≤ 'Z' ∧ d.toNat = c.toNat + 32) ∨
    ('A' ≤ d ∧ d ≤ 'Z' ∧ c.toNat = d.toNat + 32)

/-- Two texts are spelled with the same letters, in whatever case. -/
def SameSpelling (t t' : String) : Prop :=
  List.Forall₂ SameLetter t.toList t'.toList

variable {c d : Char} {t t' u text candidate : String} {cs : List String} {i j start : Nat}

theorem capital_iff : 'A' ≤ c ∧ c ≤ 'Z' ↔ 65 ≤ c.toNat ∧ c.toNat ≤ 90 := Iff.rfl

theorem toNat_toLower (c : Char) :
    c.toLower.toNat = if 'A' ≤ c ∧ c ≤ 'Z' then c.toNat + 32 else c.toNat := by
  by_cases h : 'A' ≤ c ∧ c ≤ 'Z'
  · have hle : c.toNat ≤ 90 := (capital_iff.1 h).2
    have hvals : c.val ≥ 'A'.val ∧ c.val ≤ 'Z'.val := h
    have hcode : (c.val + 32).toNat = c.toNat + 32 := by
      rw [UInt32.toNat_add]
      exact Nat.mod_eq_of_lt (by change c.toNat + 32 < _; omega)
    have hlower : c.toLower.toNat = (c.val + 32).toNat := congrArg Char.toNat (dif_pos hvals)
    rw [if_pos h, hlower, hcode]
  · have hvals : ¬ (c.val ≥ 'A'.val ∧ c.val ≤ 'Z'.val) := h
    have hlower : c.toLower = c := dif_neg hvals
    rw [if_neg h, hlower]

/-- Characters that are made small come to one exactly if they are one letter; none outside ASCII
is made another one. -/
theorem toLower_eq_toLower_iff : c.toLower = d.toLower ↔ SameLetter c d := by
  rw [← Char.toNat_inj, toNat_toLower, toNat_toLower, SameLetter, ← Char.toNat_inj (c := c)]
  simp only [← and_assoc, capital_iff]
  split <;> split <;> omega

theorem toList_foldCase (text : String) : (foldCase text).toList = text.toList.map Char.toLower :=
  String.toList_ofList

theorem foldCase_eq_foldCase_iff : foldCase t = foldCase t' ↔ SameSpelling t t' := by
  rw [← String.toList_inj, toList_foldCase, toList_foldCase, SameSpelling,
    ← List.forall₂_eq_eq_eq, List.forall₂_map_left_iff, List.forall₂_map_right_iff]
  simp only [toLower_eq_toLower_iff]

theorem SameSpelling.isEmpty_eq (h : SameSpelling t t') : t.isEmpty = t'.isEmpty := by
  rw [Bool.eq_iff_iff, String.isEmpty_iff, String.isEmpty_iff, ← String.toList_eq_nil_iff,
    ← String.toList_eq_nil_iff, ← List.length_eq_zero_iff, ← List.length_eq_zero_iff,
    List.Forall₂.length_eq h]

/-! ## The candidates that start with a text -/

theorem abbreviates_iff :
    abbreviates text candidate = true ↔ text.toList.map Char.toLower <+: candidate.toList := by
  rw [abbreviates, toList_foldCase, List.isPrefixOf_iff_prefix]

/-- What starts with a text starts with every beginning of it. -/
theorem abbreviates_of_append (h : abbreviates (t ++ u) candidate = true) :
    abbreviates t candidate = true := by
  rw [abbreviates_iff, String.toList_append, List.map_append] at h
  exact abbreviates_iff.2 ((List.prefix_append _ _).trans h)

/-- The candidate at a place starts with a text. -/
def StartsAt (text : String) (cs : List String) (i : Nat) : Prop :=
  ∃ candidate, cs[i]? = some candidate ∧ abbreviates text candidate = true

theorem StartsAt.of_append (h : StartsAt (t ++ u) cs i) : StartsAt t cs i :=
  h.imp fun _ hc => ⟨hc.1, abbreviates_of_append hc.2⟩

/-- A candidate stays at its place when others are added behind all. -/
theorem StartsAt.append (h : StartsAt text cs i) (more : List String) :
    StartsAt text (cs ++ more) i := by
  obtain ⟨candidate, hc, habbreviates⟩ := h
  obtain ⟨hi, -⟩ := List.getElem?_eq_some_iff.1 hc
  exact ⟨candidate, (List.getElem?_append_left hi).trans hc, habbreviates⟩

/-- The places that are found are those of the candidates that start with the text. -/
theorem mem_matchesFrom_iff :
    j ∈ matchesFrom text start cs ↔ ∃ i, j = start + i ∧ StartsAt text cs i := by
  induction cs generalizing start with
  | nil => simp [matchesFrom, StartsAt]
  | cons candidate cs ih =>
    have hrest : j ∈ matchesFrom text (start + 1) cs ↔
        ∃ i, j = start + (i + 1) ∧ StartsAt text cs i := by
      simp only [ih, Nat.add_assoc, Nat.add_comm 1]
    rw [matchesFrom, ← Nat.or_exists_add_one]
    by_cases h : abbreviates text candidate = true
    · rw [if_pos h, List.mem_cons, hrest]
      simp [StartsAt, h]
    · rw [if_neg h, hrest]
      simp [StartsAt, h]

/-- Both ways of picking candidates pick as many. -/
theorem length_matchesFrom (text : String) (start : Nat) (cs : List String) :
    (matchesFrom text start cs).length = (completions text cs).length := by
  induction cs generalizing start with
  | nil => rfl
  | cons candidate cs ih =>
    rw [matchesFrom, completions, List.filter_cons]
    split
    · exact congrArg (· + 1) (ih _)
    · exact ih _

/-- Fewer candidates start with a longer text. -/
theorem length_completions_append_le (t u : String) (cs : List String) :
    (completions (t ++ u) cs).length ≤ (completions t cs).length :=
  (List.monotone_filter_right cs fun _ => abbreviates_of_append).length_le

theorem length_completions_append (text : String) (cs more : List String) :
    (completions text (cs ++ more)).length =
      (completions text cs).length + (completions text more).length := by
  rw [completions, List.filter_append, List.length_append]
  rfl

/-! ## What a text resolves to -/

theorem resolve_of_ne (h : text ≠ "") :
    resolve text cs = match matchesFrom text 0 cs with
      | [] => .notFound
      | [index] => .found index
      | _ => .ambiguous :=
  if_neg (by rwa [String.isEmpty_iff])

theorem resolve_eq_found_iff :
    resolve text cs = .found i ↔
      text ≠ "" ∧ (completions text cs).length = 1 ∧ StartsAt text cs i := by
  by_cases hne : text = ""
  · subst hne
    simp [resolve]
  have hplace : StartsAt text cs i ↔ i ∈ matchesFrom text 0 cs := by simp [mem_matchesFrom_iff]
  rw [resolve_of_ne hne, ← length_matchesFrom text 0, hplace]
  rcases matchesFrom text 0 cs with _ | ⟨_, _ | _⟩ <;> simp [hne, eq_comm]

theorem resolve_eq_ambiguous_iff :
    resolve text cs = .ambiguous ↔ text ≠ "" ∧ 2 ≤ (completions text cs).length := by
  by_cases hne : text = ""
  · subst hne
    simp [resolve]
  rw [resolve_of_ne hne, ← length_matchesFrom text 0]
  rcases matchesFrom text 0 cs with _ | ⟨_, _ | _⟩ <;> simp [hne]

theorem resolve_eq_notFound_iff :
    resolve text cs = .notFound ↔ text = "" ∨ (completions text cs).length = 0 := by
  by_cases hne : text = ""
  · subst hne
    simp [resolve]
  rw [resolve_of_ne hne, ← length_matchesFrom text 0]
  rcases matchesFrom text 0 cs with _ | ⟨_, _ | _⟩ <;> simp [hne]

/-- **Typing on** leads from a candidate to the same one or to none. -/
theorem resolve_append_of_found (h : resolve t cs = .found i) (u : String) :
    resolve (t ++ u) cs = .found i ∨ resolve (t ++ u) cs = .notFound := by
  obtain ⟨-, hone, -⟩ := resolve_eq_found_iff.1 h
  have hfewer := length_completions_append_le t u cs
  cases hlonger : resolve (t ++ u) cs with
  | notFound => exact .inr rfl
  | ambiguous =>
    have htwo := (resolve_eq_ambiguous_iff.1 hlonger).2
    omega
  | found j =>
    -- The longer text's candidate is one that the shorter text starts, and there is just one.
    obtain ⟨-, -, hj⟩ := resolve_eq_found_iff.1 hlonger
    have hsame : resolve t cs = .found j :=
      resolve_eq_found_iff.2 ⟨(resolve_eq_found_iff.1 h).1, hone, hj.of_append⟩
    exact .inl (hsame.symm.trans h)

/-- **Beginnings** of what is ambiguous are ambiguous. -/
theorem resolve_of_append_ambiguous (h : resolve (t ++ u) cs = .ambiguous) (ht : t ≠ "") :
    resolve t cs = .ambiguous := by
  have htwo := (resolve_eq_ambiguous_iff.1 h).2
  exact resolve_eq_ambiguous_iff.2 ⟨ht, Nat.le_trans htwo (length_completions_append_le t u cs)⟩

/-- **Case** does not matter. -/
theorem resolve_congr (h : SameSpelling t t') (cs : List String) :
    resolve t cs = resolve t' cs := by
  have hstarts : abbreviates t = abbreviates t' := by
    funext candidate
    rw [abbreviates, abbreviates, foldCase_eq_foldCase_iff.2 h]
  have hplaces : ∀ start cs, matchesFrom t start cs = matchesFrom t' start cs := by
    intro start cs
    induction cs generalizing start with
    | nil => rfl
    | cons candidate cs ih => rw [matchesFrom, matchesFrom, hstarts, ih]
  rw [resolve, resolve, h.isEmpty_eq, hplaces]

/-- **A new candidate** behind the others leaves the one that was found, or makes the text
ambiguous. -/
theorem resolve_append_candidates (h : resolve text cs = .found i) (more : List String) :
    resolve text (cs ++ more) = .found i ∨ resolve text (cs ++ more) = .ambiguous := by
  obtain ⟨hne, hone, hplace⟩ := resolve_eq_found_iff.1 h
  have hcount := length_completions_append text cs more
  rcases Nat.eq_zero_or_pos (completions text more).length with hnone | hsome
  · exact .inl (resolve_eq_found_iff.2 ⟨hne, by omega, hplace.append more⟩)
  · exact .inr (resolve_eq_ambiguous_iff.2 ⟨hne, by omega⟩)

/-- Several things are what a text may mean exactly if it is ambiguous. -/
theorem choose_eq_several_iff {α : Type} {name : α → String} {all : List α} :
    choose text name all = .several ↔ resolve text (all.map name) = .ambiguous := by
  unfold choose
  cases resolve text (all.map name) with
  | found i => cases h : all[i]? <;> simp [h]
  | notFound => simp
  | ambiguous => simp

end Text

/-! ## Names of commands -/

namespace Statement

open Reading

/-- The failure of a line whose first token is an ambiguous name of a command. -/
def ambiguousName (t : Token) : Failure :=
  (Fault.ambiguousCommand t.text (Command.candidates t.text)).atSpan t.span

variable {c c' : Cursor} {s s' : Session}

theorem run_commandName_of_ambiguous (h : Command.resolve c.current.text = .ambiguous)
    (s : Session) :
    commandName.run c s = ((.error (ambiguousName c.current), c.advance), s) := by
  rw [run_commandName, Text.choose_eq_several_iff.2 h]
  rfl

/-- A name is said to be ambiguous only if it is. -/
theorem resolve_of_run_commandName {f : Failure} (h : commandName.run c s = ((.error f, c'), s'))
    (hcode : f.fault.code = "SEM050") : Command.resolve c.current.text = .ambiguous := by
  rw [run_commandName] at h
  cases hchoice : Text.choose c.current.text Command.name Command.all with
  | several => exact Text.choose_eq_several_iff.1 hchoice
  | one command =>
    rw [hchoice] at h
    cases h
  | none =>
    rw [hchoice] at h
    cases h
    have hother : "SEM051" = "SEM050" := hcode
    exact absurd hother (by decide)

/-- A line that starts with an ambiguous name is refused for it, and nothing is done. -/
theorem run_execute_of_ambiguous (runner : ScriptRunner) (hf : c.current.kind ≠ .finish)
    (hi : c.current.kind ≠ .invalid) (heq : c.next.kind ≠ .equal)
    (h : Command.resolve c.current.text = .ambiguous) (s : Session) :
    (execute runner).run c s = ((.error (ambiguousName c.current), c.advance), s) := by
  rw [run_execute_of_valid runner hf hi, if_neg heq, run_bind, run_commandName_of_ambiguous h]

end Statement

namespace Command

open Reading Statement

/-- **Resolution never switches.** Whatever the candidates are: a text that stands for one of them
stands for it or for none when it is continued; where a text is ambiguous, so is every beginning of
it that is not empty; the case of ASCII letters does not matter; and where a candidate is found, it
is found or the text is ambiguous when others are added behind the list. A text is an ambiguous name
of a command exactly if two or more names start with it, and these are the ones that are shown: a
line that starts with such a name is refused with them, and no other name is refused that way. -/
theorem resolution_never_switches :
    (∀ (cs : List String) (t u : String) (i : Nat), Text.resolve t cs = .found i →
      Text.resolve (t ++ u) cs = .found i ∨ Text.resolve (t ++ u) cs = .notFound) ∧
    (∀ (cs : List String) (t u : String), Text.resolve (t ++ u) cs = .ambiguous → t ≠ "" →
      Text.resolve t cs = .ambiguous) ∧
    (∀ (cs : List String) (t t' : String), Text.SameSpelling t t' →
      Text.resolve t cs = Text.resolve t' cs) ∧
    (∀ (cs more : List String) (t : String) (i : Nat), Text.resolve t cs = .found i →
      Text.resolve t (cs ++ more) = .found i ∨ Text.resolve t (cs ++ more) = .ambiguous) ∧
    (∀ text : String, text ≠ "" →
      (resolve text = .ambiguous ↔ 2 ≤ (candidates text).length)) ∧
    ∀ (c : Cursor) (s : Session),
      (resolve c.current.text = .ambiguous ↔
        ∃ f c' s', commandName.run c s = ((.error f, c'), s') ∧ f.fault.code = "SEM050") ∧
      (resolve c.current.text = .ambiguous → c.current.kind ≠ .finish →
        c.current.kind ≠ .invalid → c.next.kind ≠ .equal → ∀ runner, ∃ f,
          (execute runner).run c s = ((.error f, c.advance), s) ∧
          f.fault.message = "[SEM050] コマンド '" ++ c.current.text ++ "' は曖昧です（候補: " ++
            String.intercalate ", " (candidates c.current.text) ++ "）") := by
  refine ⟨fun _ _ u _ h => Text.resolve_append_of_found h u,
    fun _ _ _ h ht => Text.resolve_of_append_ambiguous h ht,
    fun cs _ _ h => Text.resolve_congr h cs,
    fun _ more _ _ h => Text.resolve_append_candidates h more, fun text hne => ?_,
    fun c s => ⟨⟨fun h => ?_, ?_⟩, fun h hf hi heq runner => ?_⟩⟩
  · exact Text.resolve_eq_ambiguous_iff.trans (and_iff_right hne)
  · exact ⟨_, _, _, run_commandName_of_ambiguous h s, rfl⟩
  · rintro ⟨f, c', s', hrun, hcode⟩
    exact resolve_of_run_commandName hrun hcode
  · exact ⟨_, run_execute_of_ambiguous runner hf hi heq h s, rfl⟩

/-- `Sel` is `select`, and nothing with an umlaut behind it; `se` leaves `select` and `set`, so `s`
is ambiguous too; `match` is no longer alone when `mate` comes. -/
theorem resolution_of_shortened_names :
    (Text.resolve "Sel" names = .found 1 ∧
      (Text.resolve ("Sel" ++ "ä") names = .found 1 ∨
        Text.resolve ("Sel" ++ "ä") names = .notFound)) ∧
    (Text.resolve ("s" ++ "e") names = .ambiguous ∧ "s" ≠ "" ∧
      Text.resolve "s" names = .ambiguous) ∧
    (Text.SameSpelling "Sä" "sä" ∧ Text.resolve "Sä" names = Text.resolve "sä" names) ∧
    (Text.resolve "ma" ["match"] = .found 0 ∧
      (Text.resolve "ma" (["match"] ++ ["mate"]) = .found 0 ∨
        Text.resolve "ma" (["match"] ++ ["mate"]) = .ambiguous)) ∧
    ("S" ≠ "" ∧ (resolve "S" = .ambiguous ↔ 2 ≤ (candidates "S").length)) ∧
    resolve (Cursor.ofLine "S x").current.text = .ambiguous ∧
    (Cursor.ofLine "S x").current.kind ≠ .finish ∧
    (Cursor.ofLine "S x").current.kind ≠ .invalid ∧ (Cursor.ofLine "S x").next.kind ≠ .equal ∧
    ∃ f, (execute fun _ => pure .good).run (Cursor.ofLine "S x") (Session.after []) =
        ((.error f, (Cursor.ofLine "S x").advance), Session.after []) ∧
      f.fault.message = "[SEM050] コマンド 'S' は曖昧です（候補: select, set, save, script）" := by
  obtain ⟨htyping, hbeginning, hcase, hmore, hcount, hline⟩ := resolution_never_switches
  have hselect : Text.resolve "Sel" names = .found 1 := by decide +kernel
  have hshort : Text.resolve ("s" ++ "e") names = .ambiguous := by decide +kernel
  have hspelling : Text.SameSpelling "Sä" "sä" :=
    .cons (.inr (.inl (by decide))) (.cons (.inl rfl) .nil)
  have hmatch : Text.resolve "ma" ["match"] = .found 0 := by decide +kernel
  have hhead : resolve (Cursor.ofLine "S x").current.text = .ambiguous := by decide +kernel
  have hfinish : (Cursor.ofLine "S x").current.kind ≠ .finish := by decide +kernel
  have hvalid : (Cursor.ofLine "S x").current.kind ≠ .invalid := by decide +kernel
  have hnext : (Cursor.ofLine "S x").next.kind ≠ .equal := by decide +kernel
  obtain ⟨f, hrun, hmessage⟩ := (hline (Cursor.ofLine "S x") (Session.after [])).2 hhead hfinish
    hvalid hnext fun _ => pure .good
  refine ⟨⟨hselect, htyping _ _ _ _ hselect⟩, ⟨hshort, by decide, hbeginning _ _ _ hshort
    (by decide)⟩, ⟨hspelling, hcase _ _ _ hspelling⟩, ⟨hmatch, hmore _ _ _ _ hmatch⟩,
    ⟨by decide, hcount "S" (by decide)⟩, hhead, hfinish, hvalid, hnext, f, hrun, ?_⟩
  rw [hmessage]
  decide +kernel

end Command

end DriverBench
