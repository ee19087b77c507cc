import DeskCalculator.Json.Basic
import DeskCalculator.Tree.Rendering

/-! Values of data files as numbers of the calculator. Truth values count as one and zero; a whole number
beyond all finite doubles is an error. -/

namespace DeskCalculator

inductive NumberError where
  | tooLarge
deriving DecidableEq, Repr

def NumberError.message : NumberError → String
  | .tooLarge => "int too large to convert to float"

namespace Json

def double? (value : Json) : Except NumberError (Option Float) :=
  match value with
  | bool true => .ok (some 1)
  | bool false => .ok (some 0)
  | number value =>
    match value.toFloat? with
    | some double => .ok (some double)
    | none => .error .tooLarge
  | string text => .ok (Numeral.real? text.shown.toList)
  | _ => .ok none

def operandValue? (value : Json) : Except NumberError (Option Float) :=
  value.double?.map Binary64.finite?

def displayed (value : Json) : Except NumberError String :=
  value.double?.map displayNumber

/-- An operand's value as it was given, without a change of its kind. -/
def operandText : Json → String
  | null => placeholder
  | value => value.shown

end Json
end DeskCalculator
