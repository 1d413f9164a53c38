import DriverBench.Text.Grapheme
import DriverBench.Text.Utf8
/-!
# Backspaces

A line that does not come from a terminal may hold backspaces. Each takes away the grapheme before
it, if there is one left. A text without backspaces stays as it is (`applyBackspaces_of_not_mem`).
-/

namespace DriverBench.Text

/-- The character that takes the grapheme before it away. -/
def backspace : Char := '\x08'

/-- The sizes of graphemes are kept in a byte, so that they are known up to multiples of this. -/
def sizeModulus : Nat := 256

/-- What is left of a line so far. -/
structure Typed where
  /-- The characters, the last one first. -/
  reversed : List Char := []
  /-- The sizes in bytes of the graphemes that are left, the last one first. -/
  sizes : List Nat := []

namespace Typed

/-- Takes the last grapheme away. -/
def erase (t : Typed) : Typed :=
  match t.sizes with
  | [] => t
  | size :: sizes => ⟨dropBytes size t.reversed, sizes⟩

/-- Appends a grapheme. -/
def append (t : Typed) (grapheme : List Char) : Typed :=
  ⟨grapheme.reverse ++ t.reversed, byteLength grapheme % sizeModulus :: t.sizes⟩

/-- Takes the next grapheme of the line in. -/
def take (t : Typed) (grapheme : List Char) : Typed :=
  if grapheme = [backspace] then t.erase else t.append grapheme

/-- The line that is left. -/
def line (t : Typed) : List Char :=
  t.reversed.reverse

end Typed

/-- A line once its backspaces have taken away what stands before them. -/
def applyBackspaces (cs : List Char) : List Char :=
  ((graphemes cs).foldl Typed.take {}).line

theorem line_foldl_take {gs : List (List Char)} (h : ∀ g ∈ gs, backspace ∉ g) (t : Typed) :
    (gs.foldl Typed.take t).line = t.line ++ gs.flatten := by
  induction gs generalizing t with
  | nil => simp
  | cons g gs ih =>
    have hg : g ≠ [backspace] := fun hb => h g (by simp) (by simp [hb])
    rw [List.foldl_cons, ih fun x hx => h x (by simp [hx])]
    simp [Typed.take, hg, Typed.append, Typed.line]

/-- Without a backspace nothing is taken away. -/
theorem applyBackspaces_of_not_mem {cs : List Char} (h : backspace ∉ cs) :
    applyBackspaces cs = cs := by
  have hg : ∀ g ∈ graphemes cs, backspace ∉ g := fun g hg hb =>
    h (by rw [← flatten_graphemes cs]; exact List.mem_flatten.2 ⟨g, hg, hb⟩)
  rw [applyBackspaces, line_foldl_take hg, flatten_graphemes]
  rfl

end DriverBench.Text
