import DeskCalculator.Number.Binary64
import DeskCalculator.Tree.Basic

/-! The value of a tree. It is defined when every operand that the operators use has a value and every
operator has a finite result; an operand's own value is taken as it is. -/

namespace DeskCalculator.Tree

def evaluate : Tree → Option Float
  | absent => none
  | node .blank _ _ => none
  | node (.operand value) _ _ => value
  | node (.operator (.unary _ apply)) left _ =>
    match left.evaluate with
    | none => none
    | some operand => Binary64.finite? (apply operand)
  | node (.operator (.binary _ apply)) left right =>
    match right.evaluate, left.evaluate with
    | some rightOperand, some leftOperand => Binary64.finite? (apply rightOperand leftOperand)
    | _, _ => none

end DeskCalculator.Tree
