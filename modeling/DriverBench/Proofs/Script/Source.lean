import DriverBench.Script
import Mathlib.Data.List.Basic
/-!
# What a script asks to be run

A source is read line by line, and blanks around a line mean nothing. So neither the carriage
returns in front of line feeds matter, which are blanks, nor the feed at the end of the source: what
a script asks to be run is read off the parts between its line feeds (`ScriptLine.ofSource_eq`). Two
sources with a line feed between them ask for what the first one asks for and then for what the
second one does (`ScriptLine.ofSource_append`).
-/

namespace DriverBench

namespace Text

variable {p : Char → Bool} {c : Char}

theorem splitFeeds_eq_splitOn (cs : List Char) : splitFeeds cs = cs.splitOn '\n' := by
  induction cs with
  | nil => rfl
  | cons c cs ih =>
    have hcons : (c :: cs).splitOn '\n' =
        if (c == '\n') = true then [] :: cs.splitOn '\n'
        else (cs.splitOn '\n').modifyHead (List.cons c) :=
      List.splitOnP_cons_eq_if_modifyHead ..
    rw [hcons, splitFeeds, ih]
    by_cases h : c = '\n'
    · rw [if_pos h, if_pos (by simpa using h)]
    · rw [if_neg h, if_neg (by simpa using h)]
      cases hparts : cs.splitOn '\n' with
      | nil => exact absurd (ih.trans hparts) (splitFeeds_ne_nil cs)
      | cons line more => rfl

/-- A character that is trimmed may as well stand at the end. -/
theorem trimWhere_concat (hc : p c = true) (cs : List Char) :
    trimWhere p (cs ++ [c]) = trimWhere p cs := by
  have hend : ∀ cs, dropEndWhile p (cs ++ [c]) = dropEndWhile p cs := fun cs => by
    rw [dropEndWhile, List.reverse_append, List.reverse_singleton, List.singleton_append,
      List.dropWhile_cons_of_pos hc, dropEndWhile]
  rw [trimWhere, trimWhere, List.dropWhile_append]
  by_cases hall : (cs.dropWhile p).isEmpty = true
  · rw [if_pos hall, List.dropWhile_cons_of_pos hc, List.isEmpty_iff.1 hall]
    rfl
  · rw [if_neg hall, hend]

theorem trimWhere_dropReturn (line : List Char) :
    trimWhere isBlank (dropReturn line) = trimWhere isBlank line := by
  unfold dropReturn
  split
  · next hlast =>
    obtain ⟨init, rfl⟩ := List.getLast?_eq_some_iff.1 hlast
    rw [List.dropLast_concat, trimWhere_concat rfl]
  · rfl

end Text

namespace ScriptLine

open Text

/-- Where the lines of a source end does not matter for what they ask to be run. -/
theorem filterMap_endedLines (parts : List (List Char)) :
    (endedLines parts).filterMap ofRaw? = parts.filterMap ofRaw? := by
  have hreturn : ∀ line, ofRaw? (dropReturn line) = ofRaw? line := fun line => by
    rw [ofRaw?, trimWhere_dropReturn, ofRaw?]
  fun_induction endedLines parts with
  | case1 => rfl
  | case2 last hempty =>
    rw [List.isEmpty_iff.1 hempty]
    rfl
  | case3 last hne => rfl
  | case4 line more hmore ih => rw [List.filterMap_cons, List.filterMap_cons, hreturn, ih]

/-- What a script asks to be run is read off the parts between its line feeds. -/
theorem ofSource_eq (source : String) :
    ofSource source = (source.toList.splitOn '\n').filterMap ofRaw? := by
  rw [ofSource, lines, filterMap_endedLines, splitFeeds_eq_splitOn]

/-- **Two sources** with a line feed between them ask for one after the other. -/
theorem ofSource_append (a b : String) :
    ofSource (a ++ "\n" ++ b) = ofSource a ++ ofSource b := by
  have hlist : (a ++ "\n" ++ b).toList = a.toList ++ '\n' :: b.toList := by simp
  have hsplit : (a.toList ++ '\n' :: b.toList).splitOn '\n' =
      a.toList.splitOn '\n' ++ b.toList.splitOn '\n' :=
    List.splitOnP_append_cons _ _ (by simp)
  rw [ofSource_eq, hlist, hsplit, List.filterMap_append, ← ofSource_eq, ← ofSource_eq]

end ScriptLine

/-- The texts of the lines that a script asks to be run: what stands between its line feeds, without
the blanks around it, unless it is empty then or starts with `#`; and where it starts with `@`,
without that and without the blanks around the rest. -/
def commandLines (source : String) : List String :=
  let trimmed := (source.toList.splitOn '\n').map (Text.trimWhere Text.isBlank)
  let asked := trimmed.filter fun line => line ≠ [] ∧ line.head? ≠ some '#'
  asked.map fun line =>
    String.ofList (if line.head? = some '@' then Text.trimWhere Text.isBlank line.tail else line)

theorem map_text_ofSource (source : String) :
    (ScriptLine.ofSource source).map ScriptLine.text = commandLines source := by
  rw [ScriptLine.ofSource_eq, commandLines, List.filter_map, List.map_map, List.map_filterMap,
    ← List.filterMap_eq_map, List.filterMap_filter]
  refine List.filterMap_congr fun raw _ => ?_
  rw [Function.comp_apply, Function.comp_apply, Function.comp_apply, ScriptLine.ofRaw?]
  cases htrim : Text.trimWhere Text.isBlank raw with
  | nil => rfl
  | cons c rest =>
    by_cases hnote : c = '#'
    · subst hnote
      rfl
    by_cases hsilent : c = '@'
    · subst hsilent
      rfl
    -- Every other line is asked for as it stands.
    split <;> simp_all

end DriverBench
