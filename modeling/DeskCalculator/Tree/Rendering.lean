import DeskCalculator.Number.Notation
import DeskCalculator.Text.Quoted
import DeskCalculator.Tree.Basic

/-! Trees and numbers as the display shows them. A binary operator stands between its operands, in
parentheses; a unary one stands before its operand; a question mark stands for a missing operand of
a binary operator. -/

namespace DeskCalculator

def placeholder : String := "_"

def missingOperand : String := "?"

def wholeLimit : Nat := Nat.pow 10 16

/-- A whole number is shown without a point, so both zeros look alike. -/
def displayNumber : Option Float → String
  | none => placeholder
  | some value =>
    match Binary64.whole? value with
    | some number =>
      if number.natAbs < wholeLimit then toString number else Layout.plain.write value
    | none => Layout.plain.write value

namespace Tree

/-- Without a left operand a binary operator shows neither. -/
def render : Tree → String
  | absent => missingOperand
  | node .blank _ _ => placeholder
  | node (.operand value) _ _ => displayNumber value
  | node (.operator (.unary symbol _)) left _ =>
    if left.isPresent then symbol ++ left.render else symbol
  | node (.operator (.binary symbol _)) left right =>
    if left.isPresent then "(" ++ left.render ++ symbol ++ right.render ++ ")"
    else "(" ++ missingOperand ++ symbol ++ missingOperand ++ ")"

def described (tree : Tree) : String :=
  "ExpressionNode(" ++ Text.quoted tree.render ++ ")"

end Tree
end DeskCalculator
