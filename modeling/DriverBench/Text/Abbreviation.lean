/-!
# Abbreviations

A name may be shortened to any beginning that no other candidate shares. Letters compare without
regard to ASCII case; the candidates themselves are written in lower case.
-/

namespace DriverBench.Text

/-- A text with its ASCII capitals made small. -/
def foldCase (s : String) : String :=
  String.ofList (s.toList.map Char.toLower)

/-- What an abbreviation resolves to. -/
inductive Resolution where
  /-- The one candidate that starts with the text, by its place in the list. -/
  | found (index : Nat)
  | notFound
  /-- Two or more candidates start with the text. -/
  | ambiguous
  deriving DecidableEq, Repr

/-- Whether `text`, in any case, is a beginning of `candidate`. -/
def abbreviates (text candidate : String) : Bool :=
  (foldCase text).toList.isPrefixOf candidate.toList

/-- The places, counted from `start`, of the candidates that `text` abbreviates. -/
def matchesFrom (text : String) : Nat → List String → List Nat
  | _, [] => []
  | start, candidate :: rest =>
    if abbreviates text candidate then start :: matchesFrom text (start + 1) rest
    else matchesFrom text (start + 1) rest

/-- Resolves an abbreviation. The empty text abbreviates nothing. -/
def resolve (text : String) (candidates : List String) : Resolution :=
  if text.isEmpty then .notFound
  else
    match matchesFrom text 0 candidates with
    | [] => .notFound
    | [index] => .found index
    | _ => .ambiguous

/-- What a text picks out of several things by an abbreviation of a name. -/
inductive Choice (α : Type) where
  | one (a : α)
  | none
  | several
  deriving DecidableEq, Repr

/-- Picks the one thing whose name a text abbreviates. -/
def choose {α : Type} (text : String) (name : α → String) (all : List α) : Choice α :=
  match resolve text (all.map name) with
  | .found index =>
    match all[index]? with
    | some a => .one a
    | Option.none => .none
  | .notFound => .none
  | .ambiguous => .several

/-- The candidates that a text abbreviates, in their order. -/
def completions (text : String) (candidates : List String) : List String :=
  candidates.filter (abbreviates text)

end DriverBench.Text
