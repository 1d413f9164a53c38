import DriverBench.Text.GraphemeClass
/-!
# Graphemes

A grapheme is what a reader takes for one character: a letter with its marks, a Hangul syllable, a
flag, a pictograph with what is joined to it. A text is cut into graphemes from left to right;
whether two neighbours belong together depends on their classes and on a little of what stands
before them (`Joint`). Nothing of the text is lost (`flatten_graphemes`).
-/

namespace DriverBench.Text

/-- How far a conjunct of consonants has come. -/
inductive Conjunct where
  | absent
  /-- A consonant, with marks behind it. -/
  | begun
  /-- A consonant and a linker behind it, perhaps with marks. -/
  | linked
  deriving DecidableEq, Repr

/-- What stands before a place between two characters, as far as it matters there. -/
structure Joint where
  /-- The class of the character before the place. -/
  before : GraphemeClass
  /-- A pictograph, with marks behind it, stands before. -/
  afterPictograph : Bool
  /-- So it does, and a joiner behind that. -/
  pictographJoined : Bool
  /-- An odd number of halves of flags stands before. -/
  oddFlags : Bool
  conjunct : Conjunct
  deriving DecidableEq, Repr

namespace Joint

/-- The conjunct behind one more character. -/
def nextConjunct (old : Conjunct) (c : Char) (cls : GraphemeClass) : Conjunct :=
  if cls = .consonant then .begun
  else if old = .absent then .absent
  else if isLinker c then .linked
  else if (cls = .extend ∧ c ≠ nonJoiner) ∨ cls = .joiner then old
  else .absent

/-- The place behind a character that nothing stands before. -/
def start (c : Char) : Joint :=
  let cls := GraphemeClass.of c
  ⟨cls, cls = .pictograph, false, cls = .regional, nextConjunct .absent c cls⟩

/-- The place behind one more character. -/
def next (j : Joint) (c : Char) : Joint :=
  let cls := GraphemeClass.of c
  ⟨cls, cls = .pictograph || (j.afterPictograph && cls = .extend),
    j.afterPictograph && cls = .joiner, cls = .regional && !j.oddFlags,
    nextConjunct j.conjunct c cls⟩

/-- Whether a character of a class is a control or ends a line. -/
def isControl (cls : GraphemeClass) : Bool :=
  cls = .control || cls = .carriageReturn || cls = .lineFeed

/-- Whether two classes make up a syllable of Hangul, or a part of one. -/
def formSyllable : GraphemeClass → GraphemeClass → Bool
  | .leading, .leading | .leading, .vowel | .leading, .openSyllable | .leading, .closedSyllable =>
    true
  | .openSyllable, .vowel | .vowel, .vowel | .openSyllable, .trailing | .vowel, .trailing => true
  | .closedSyllable, .trailing | .trailing, .trailing => true
  | _, _ => false

/-- Whether a character behind a place belongs to the grapheme before it. -/
def joins (j : Joint) (c : Char) : Bool :=
  let cls := GraphemeClass.of c
  if j.before = .carriageReturn ∧ cls = .lineFeed then true
  else if isControl j.before ∨ isControl cls then false
  else
    formSyllable j.before cls ||
      cls = .extend || cls = .joiner || cls = .spacingMark || j.before = .prepended ||
      (cls = .consonant && j.conjunct = .linked) ||
      (cls = .pictograph && j.pictographJoined) ||
      (cls = .regional && j.oddFlags)

end Joint

/-- Puts a character in front of the first grapheme. -/
def attach (c : Char) : List (List Char) → List (List Char)
  | [] => [[c]]
  | first :: more => (c :: first) :: more

@[simp] theorem flatten_attach (c : Char) (gs : List (List Char)) :
    (attach c gs).flatten = c :: gs.flatten := by
  cases gs <;> rfl

/-- Cuts what follows a place into graphemes; the first one continues the grapheme before. -/
def continueGraphemes (j : Joint) : List Char → List (List Char)
  | [] => [[]]
  | c :: rest =>
    let gs := attach c (continueGraphemes (j.next c) rest)
    if j.joins c then gs else [] :: gs

/-- The graphemes of a text, from left to right. -/
def graphemes : List Char → List (List Char)
  | [] => []
  | c :: rest => attach c (continueGraphemes (.start c) rest)

theorem flatten_continueGraphemes (j : Joint) (cs : List Char) :
    (continueGraphemes j cs).flatten = cs := by
  induction cs generalizing j with
  | nil => rfl
  | cons c rest ih =>
    unfold continueGraphemes
    split <;> simp [ih]

/-- Graphemes make up the text that was cut. -/
theorem flatten_graphemes (cs : List Char) : (graphemes cs).flatten = cs := by
  cases cs with
  | nil => rfl
  | cons c rest => simp [graphemes, flatten_continueGraphemes]

end DriverBench.Text
