import Mathlib.Data.List.DropRight
import DriverBench.Text.Blank
/-!
# What trimming leaves

A trimmed text ends with a character that stays, and what was taken off is all of the other kind
(`exists_of_trimWhere`); no other part of the text is like that (`trimWhere_between`). A text with
more in front of it is trimmed to the same end (`exists_trimWhere_of_append`).
-/

namespace DriverBench.Text

variable {p : Char → Bool} {cs : List Char}

/-- Nothing is dropped in front of a character that stays. -/
theorem dropWhile_eq_self (h : ∀ c ∈ cs.head?, p c = false) : cs.dropWhile p = cs := by
  cases cs with
  | nil => rfl
  | cons c rest => simp [h c rfl]

/-- Behind what is dropped in front, what is trimmed stands at the end. -/
theorem exists_dropWhile_eq (p : Char → Bool) (cs : List Char) :
    ∃ right, cs.dropWhile p = trimWhere p cs ++ right ∧ ∀ c ∈ right, p c = true := by
  refine ⟨((cs.dropWhile p).reverse.takeWhile p).reverse, ?_,
    fun c hc => List.mem_takeWhile_imp (List.mem_reverse.1 hc)⟩
  rw [trimWhere, dropEndWhile, ← List.reverse_append, List.takeWhile_append_dropWhile,
    List.reverse_reverse]

/-- What is trimmed off a text is all of the kind that is trimmed. -/
theorem exists_of_trimWhere (p : Char → Bool) (cs : List Char) :
    ∃ left right, cs = left ++ (trimWhere p cs ++ right) ∧
      (∀ c ∈ left, p c = true) ∧ ∀ c ∈ right, p c = true := by
  obtain ⟨right, hdrop, hright⟩ := exists_dropWhile_eq p cs
  refine ⟨cs.takeWhile p, right, ?_, fun c hc => List.mem_takeWhile_imp hc, hright⟩
  rw [← hdrop, List.takeWhile_append_dropWhile]

/-- A character that stays is in a text if and only if it is in what trimming leaves of it. -/
theorem mem_trimWhere_iff {c : Char} (hc : p c = false) : c ∈ trimWhere p cs ↔ c ∈ cs := by
  obtain ⟨left, right, hsplit, hleft, hright⟩ := exists_of_trimWhere p cs
  have hl : c ∉ left := fun hmem => by cases hc.symm.trans (hleft c hmem)
  have hr : c ∉ right := fun hmem => by cases hc.symm.trans (hright c hmem)
  conv_rhs => rw [hsplit, List.mem_append, List.mem_append]
  simp only [hl, hr, false_or, or_false]

/-- A text that is all of the kind that is trimmed is trimmed to nothing. -/
theorem trimWhere_eq_nil (h : ∀ c ∈ cs, p c = true) : trimWhere p cs = [] := by
  rw [trimWhere, List.dropWhile_eq_nil_iff.2 h]
  rfl

/-- A text is trimmed to what stands between the first and the last character to stay. -/
theorem trimWhere_between {left text right : List Char} (hleft : ∀ c ∈ left, p c = true)
    (hright : ∀ c ∈ right, p c = true) (hne : text ≠ []) (hhead : ∀ c ∈ text.head?, p c = false)
    (hlast : ∀ c ∈ text.getLast?, p c = false) : trimWhere p (left ++ (text ++ right)) = text := by
  have hfront : (left ++ (text ++ right)).dropWhile p = text ++ right := by
    rw [List.dropWhile_append_of_pos hleft]
    exact dropWhile_eq_self (by rwa [List.head?_append_of_ne_nil _ hne])
  have hend : (right.reverse ++ text.reverse).dropWhile p = text.reverse := by
    rw [List.dropWhile_append_of_pos fun c hc => hright c (List.mem_reverse.1 hc)]
    exact dropWhile_eq_self (by rwa [List.head?_reverse])
  rw [trimWhere, hfront, dropEndWhile, List.reverse_append, hend, List.reverse_reverse]

/-- What is dropped in front would be trimmed. -/
theorem trimWhere_dropWhile (p : Char → Bool) (cs : List Char) :
    trimWhere p (cs.dropWhile p) = trimWhere p cs := by
  rw [trimWhere, List.dropWhile_idempotent, trimWhere]

/-- Where something stays of the second part, the first part stays at the end. -/
theorem dropEndWhile_append {front : List Char} (h : dropEndWhile p cs ≠ []) :
    dropEndWhile p (front ++ cs) = front ++ dropEndWhile p cs := by
  rw [dropEndWhile, List.reverse_append, List.dropWhile_append, if_neg, List.reverse_append,
    List.reverse_reverse]
  · rfl
  · simpa [dropEndWhile] using h

/-- **A text that something stays of** is the end of what is trimmed with more in front. -/
theorem exists_trimWhere_of_append (front : List Char) (h : trimWhere p cs ≠ []) :
    ∃ more, trimWhere p (front ++ cs) = more ++ trimWhere p cs := by
  rw [trimWhere, List.dropWhile_append]
  by_cases hfront : (front.dropWhile p).isEmpty = true
  · exact ⟨[], by rw [if_pos hfront]; rfl⟩
  · have hsplit : dropEndWhile p cs = cs.takeWhile p ++ trimWhere p cs := by
      conv_lhs => rw [← cs.takeWhile_append_dropWhile (p := p)]
      exact dropEndWhile_append h
    have hne : dropEndWhile p cs ≠ [] := by
      rw [hsplit]
      exact List.append_ne_nil_of_right_ne_nil _ h
    exact ⟨front.dropWhile p ++ cs.takeWhile p, by
      rw [if_neg hfront, dropEndWhile_append hne, hsplit, List.append_assoc]⟩

/-- A trimmed text ends with a character that stays. -/
theorem getLast?_trimWhere : ∀ c ∈ (trimWhere p cs).getLast?, p c = false := by
  intro c hc
  rw [trimWhere, dropEndWhile, List.getLast?_reverse] at hc
  have hnot := List.head?_dropWhile_not p (cs.dropWhile p).reverse
  rw [Option.mem_def.1 hc] at hnot
  simpa using hnot

end DriverBench.Text
