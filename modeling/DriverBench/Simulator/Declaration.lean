import DriverBench.Text.Blank
import DriverBench.Text.WordCharacter
/-!
# Kernel declarations in program source

A program declares its kernels as `kernel void NAME(PARAMETERS)` or with `__kernel`. The source is
not parsed further: a declaration is looked for behind every `kernel` that starts a word or that
follows two underscores.
-/

namespace DriverBench.Simulator

/-- A declared kernel: its name and how many parameters it takes. -/
structure Signature where
  name : String
  parameters : Nat
  deriving DecidableEq, Repr

/-- The text behind `beginning`, if the text starts with it. -/
def afterPrefix? : List Char → List Char → Option (List Char)
  | [], cs => some cs
  | _ :: _, [] => none
  | p :: ps, c :: cs => if p = c then afterPrefix? ps cs else none

theorem length_of_afterPrefix? {ps cs rest : List Char} (h : afterPrefix? ps cs = some rest) :
    cs.length = ps.length + rest.length := by
  fun_induction afterPrefix? ps cs with
  | case1 => simp_all
  | case2 => simp at h
  | case3 ps c cs ih =>
    have := ih h
    simp only [List.length_cons]
    omega
  | case4 => simp at h

/-- The text behind its leading white space, of which there must be some. -/
def afterWhiteSpace? : List Char → Option (List Char)
  | c :: rest => if Text.isWhiteSpace c then some (rest.dropWhile Text.isWhiteSpace) else none
  | [] => none

/-- The text up to a closing parenthesis, if there is one. -/
def upToClose? (cs : List Char) : Option (List Char) :=
  if cs.contains ')' then some (cs.takeWhile (· != ')')) else none

/-- The number of parameters in a parameter list: none when it is blank or just `void`. -/
def countParameters (parameters : List Char) : Nat :=
  let text := Text.trimWhere Text.isWhiteSpace parameters
  if text = [] ∨ text = "void".toList then 0 else text.count ',' + 1

/-- The declaration that continues behind the word `kernel`. -/
def declarationAfter? (cs : List Char) : Option Signature := do
  let cs ← afterWhiteSpace? cs
  let cs ← afterPrefix? "void".toList cs
  let cs ← afterWhiteSpace? cs
  let name := cs.takeWhile Text.isWordCharacter
  if name.isEmpty then none
  let cs ← afterPrefix? ['('] ((cs.dropWhile Text.isWordCharacter).dropWhile Text.isWhiteSpace)
  let parameters ← upToClose? cs
  return ⟨String.ofList name, countParameters parameters⟩

/-- Whether a keyword may start behind a text, given last character first: not inside a word,
unless the word so far ends with two underscores. -/
def mayStartWord : List Char → Bool
  | '_' :: '_' :: _ => true
  | c :: _ => !Text.isWordCharacter c
  | [] => true

/-- The declarations in a text that follows `before`, which is given last character first. -/
def declarationsAfter (before cs : List Char) : List Signature :=
  match _h : afterPrefix? "kernel".toList cs with
  | some rest =>
    let found := if mayStartWord before then (declarationAfter? rest).toList else []
    found ++ declarationsAfter ("lenrek".toList ++ before) rest
  | none =>
    match cs with
    | [] => []
    | c :: rest => declarationsAfter (c :: before) rest
termination_by cs.length
decreasing_by
  · have h := length_of_afterPrefix? _h
    have : "kernel".toList.length = 6 := by decide
    omega
  · simp

/-- The kernels that a source declares, in order. -/
def declarations (source : String) : List Signature :=
  declarationsAfter [] source.toList

end DriverBench.Simulator
