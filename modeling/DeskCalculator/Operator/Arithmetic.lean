import DeskCalculator.Operator.Basic

/-! The five operators of the keypad. Division by zero and the root of a negative number have no
result; the other operations are those of doubles. -/

namespace DeskCalculator.Operator

def sum (right left : Float) : Option Float :=
  some (left + right)

def difference (right left : Float) : Option Float :=
  some (left - right)

def product (right left : Float) : Option Float :=
  some (left * right)

/-- Both zeros divide nothing. -/
def quotient (right left : Float) : Option Float :=
  if right == 0 then none else some (left / right)

def squareRoot (value : Float) : Option Float :=
  if 0 ≤ value then some value.sqrt else none

def arithmetic : List Operator :=
  [binary "+" sum, binary "−" difference, binary "×" product, binary "÷" quotient,
    unary "√" squareRoot]

end DeskCalculator.Operator
