import DeskCalculator.Number.Numeral
import DeskCalculator.Operator.Registry
import DeskCalculator.Session.Memory
import DeskCalculator.Tree.Editing
import DeskCalculator.Tree.Evaluation
import DeskCalculator.Tree.Rendering

/-! A session of the calculator: the live tree, the number being typed and the memory bank. While a
number is typed its value stands in the editable leaf of the tree and changes with each key. -/

namespace DeskCalculator

/-- `entry` holds the characters of the number being typed, if there is one. -/
structure Session where
  registry : Registry
  inputLimit : Int
  verbose : Bool
  tree : Tree
  entry : Option (List Char)
  memory : Memory

namespace Session

def start (registry : Registry) (inputLimit : Int) (verbose : Bool) : Session :=
  ⟨registry, inputLimit, verbose, .blank, none, .empty⟩

def expressionText (session : Session) : String :=
  session.tree.render

def resultText (session : Session) : String :=
  displayNumber session.tree.evaluate

def entryText (session : Session) : String :=
  match session.entry with
  | none => placeholder
  | some [] => placeholder
  | some (first :: rest) => String.ofList (first :: rest)

end Session
end DeskCalculator
