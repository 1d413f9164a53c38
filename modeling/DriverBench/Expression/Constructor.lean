import DriverBench.Number.Element
/-!
# Constructors

A constructor is a word that makes an object. Some make it from what their arguments say, the
others derive it from another object, which an expression among the arguments denotes.
-/

namespace DriverBench

open Number

/-- The ways to make an object from another one. -/
inductive Derivation where
  | clone | buffer | image | program | binary | kernel
  deriving DecidableEq, Repr

namespace Derivation

/-- Every derivation. -/
def all : List Derivation := [.clone, .buffer, .image, .program, .binary, .kernel]

/-- The word that stands for a derivation. -/
def keyword : Derivation → String
  | .clone => "clone"
  | .buffer => "buffer"
  | .image => "image"
  | .program => "program"
  | .binary => "binary"
  | .kernel => "kernel"

/-- Whether a driver must be loaded before the arguments are looked at. A clone finds out later,
from its object. -/
def needsDriver : Derivation → Bool
  | .clone => false
  | _ => true

end Derivation

/-- The constructors. -/
inductive Constructor where
  /-- The contents of a file. -/
  | file
  /-- An array of constants. -/
  | array (type : ElementType)
  | derived (d : Derivation)
  deriving DecidableEq, Repr

namespace Constructor

/-- Every constructor. -/
def all : List Constructor :=
  .file :: Derivation.all.map .derived ++ ElementType.all.map .array

/-- The word that stands for a constructor. -/
def keyword : Constructor → String
  | .file => "file"
  | .array type => type.keyword
  | .derived d => d.keyword

/-- The constructor that a word stands for. Words of constructors are not abbreviated. -/
def ofKeyword? (word : String) : Option Constructor :=
  all.find? (·.keyword == word)

end Constructor

end DriverBench
