/-!
# Names and what they are bound to

An environment is a table of bindings in the order in which they were made. A name is bound once
until it is released; releasing several names happens for all of them or for none.
-/

namespace DriverBench

/-- Why a binding was not made or not found. -/
inductive BindingError where
  | alreadyBound (name : String)
  | notFound (name : String)
  deriving DecidableEq, Repr

/-- The wording of a failure about bindings. -/
def BindingError.message : BindingError → String
  | .alreadyBound name =>
    s!"'{name}' という名前のオブジェクトは既に存在します。先に 'release' で解放してください"
  | .notFound name => s!"オブジェクト '{name}' が見つかりません"

/-- A table of bindings, oldest first. -/
structure Environment (α : Type) where
  bindings : List (String × α) := []

namespace Environment

variable {α : Type}

/-- The number of bindings. -/
def size (env : Environment α) : Nat :=
  env.bindings.length

/-- Whether nothing is bound. -/
def isEmpty (env : Environment α) : Bool :=
  env.bindings.isEmpty

/-- The bound names, oldest first. -/
def names (env : Environment α) : List String :=
  env.bindings.map Prod.fst

/-- The bound values, oldest first. -/
def values (env : Environment α) : List α :=
  env.bindings.map Prod.snd

/-- What a name is bound to. -/
def lookup (env : Environment α) (name : String) : Option α :=
  (env.bindings.find? fun b => b.1 == name).map Prod.snd

/-- Whether a name is bound. -/
def contains (env : Environment α) (name : String) : Bool :=
  env.bindings.any fun b => b.1 == name

/-- Binds a new name, as the youngest binding. -/
def insert (env : Environment α) (name : String) (value : α) :
    Except BindingError (Environment α) :=
  if env.contains name then .error (.alreadyBound name)
  else .ok ⟨env.bindings ++ [(name, value)]⟩

/-- The bindings that satisfy a condition, in their order. -/
def keep (env : Environment α) (p : String × α → Bool) : Environment α :=
  ⟨env.bindings.filter p⟩

/-- Takes bindings out by their values, and tells how many there were. -/
def clearWhere (env : Environment α) (p : α → Bool) : Nat × Environment α :=
  let rest := env.keep fun b => !p b.2
  (env.size - rest.size, rest)

/-- Takes all the named bindings out and tells how many there were, or none if one of the names is
not bound. -/
def release (env : Environment α) (names : List String) :
    Except BindingError (Nat × Environment α) :=
  match names.find? fun n => !env.contains n with
  | some missing => .error (.notFound missing)
  | none =>
    let rest := env.keep fun b => !names.contains b.1
    .ok (env.size - rest.size, rest)

end Environment

end DriverBench
