/-! Operators of the calculator. An operator is a value: a symbol with a function of one number or of
two. A function that has no result at its arguments gives none. -/

namespace DeskCalculator

/-- A binary function takes the right-hand number first. -/
inductive Operator where
  | unary (symbol : String) (apply : Float → Option Float)
  | binary (symbol : String) (apply : (right left : Float) → Option Float)

namespace Operator

def symbol : Operator → String
  | unary symbol _ => symbol
  | binary symbol _ => symbol

def arity : Operator → Nat
  | unary _ _ => 1
  | binary _ _ => 2

end Operator
end DeskCalculator
