/-! Paths. The parts between the slashes of a path are its steps: a name leads into a folder or to a file,
a double dot back, and a dot nowhere; empty parts are no steps. A path starts at the working folder
or, after a slash, at the top. `normal` is the path without the steps that lead nowhere. -/

namespace DeskCalculator

inductive Step where
  | stay
  | back
  | enter (name : String)
deriving DecidableEq, Repr

namespace Step

def ofPart? : List Char → Option Step
  | [] => none
  | ['.'] => some stay
  | ['.', '.'] => some back
  | part => some (enter (String.ofList part))

def text : Step → String
  | stay => "."
  | back => ".."
  | enter name => name

end Step

/-- `slashes` counts the slashes at the start. A path that ends in a slash names a folder. -/
structure Path where
  text : String
  slashes : Nat
  steps : List Step
  asFolder : Bool
deriving DecidableEq, Repr

namespace Path

def splitSlashes : List Char → List (List Char)
  | [] => [[]]
  | character :: rest =>
    if character = '/' then [] :: splitSlashes rest
    else
      match splitSlashes rest with
      | [] => [[character]]
      | part :: parts => (character :: part) :: parts

def ofString (text : String) : Path :=
  let characters := text.toList
  { text := text
    slashes := (characters.takeWhile (· = '/')).length
    steps := (splitSlashes characters).filterMap Step.ofPart?
    asFolder := characters.getLast? = some '/' }

instance : Coe String Path := ⟨ofString⟩

/-- Two slashes at the start are kept, more are one. -/
def normalSlashes (slashes : Nat) : Nat :=
  if slashes ≤ 2 then slashes else 1

/-- The working folder itself is a dot. -/
def textOf (slashes : Nat) (steps : List Step) : String :=
  if slashes = 0 ∧ steps = [] then "."
  else String.ofList (List.replicate slashes '/') ++ "/".intercalate (steps.map Step.text)

def normal (path : Path) : Path :=
  let slashes := normalSlashes path.slashes
  let steps := path.steps.filter (· ≠ .stay)
  ⟨textOf slashes steps, slashes, steps, false⟩

end Path
end DeskCalculator
