import DeskCalculator.Keypad.Basic

/-! Keys by their identifiers. A number key names its number after the first underscore, in any way in
which whole numbers are written; an identifier that names none is an error. -/

namespace DeskCalculator

inductive ArithmeticKey where
  | add
  | subtract
  | multiply
  | divide
  | sqrt
deriving DecidableEq, Repr

namespace ArithmeticKey

def symbol : ArithmeticKey → String
  | add => "+"
  | subtract => "−"
  | multiply => "×"
  | divide => "÷"
  | sqrt => "√"

def label : ArithmeticKey → String
  | add => "ADD"
  | subtract => "SUBTRACT"
  | multiply => "MULTIPLY"
  | divide => "DIVIDE"
  | sqrt => "SQRT"

end ArithmeticKey

inductive Key where
  | number (value : Int)
  | point
  | sign
  | arithmetic (key : ArithmeticKey)
  | finish
  | delete
  | memory (mode : MemoryMode)
  | unknown
deriving DecidableEq, Repr

inductive KeyError where
  | notWhole (written : CodeText)
  | overlong (digits : Nat)
deriving DecidableEq, Repr

namespace KeyError

def quoteLimit : Nat := 200

def message : KeyError → String
  | notWhole written =>
    "invalid literal for int() with base 10: " ++
      String.ofList ((Text.quoted written).toList.take quoteLimit)
  | overlong digits => Numeral.overlongMessage digits

end KeyError

namespace Key

def numberMark : CodeText := "num_"

def afterNumberMark? (identifier : CodeText) : Option CodeText :=
  if numberMark.isPrefixOf identifier then some (identifier.drop numberMark.length) else none

/-- The text up to the next underscore is the number; a surrogate is no part of any. -/
def number? (rest : CodeText) : Except KeyError Key :=
  let written := rest.takeWhile (· ≠ .scalar '_')
  match Numeral.whole? (written.map CodePoint.shown) with
  | .ok value => .ok (.number value)
  | .error .malformed => .error (.notWhole written)
  | .error (.tooLong digits) => .error (.overlong digits)

def named (identifier : String) : Key :=
  match identifier with
  | "dot" => point
  | "negate" => sign
  | "add" => arithmetic .add
  | "subtract" => arithmetic .subtract
  | "multiply" => arithmetic .multiply
  | "divide" => arithmetic .divide
  | "sqrt" => arithmetic .sqrt
  | "enter" => finish
  | "delete" => delete
  | "mem_add" => memory .add
  | "mem_recall" => memory .fetch
  | "mem_clear" => memory .clear
  | _ => unknown

def ofIdentifier (identifier : CodeText) : Except KeyError Key :=
  match afterNumberMark? identifier with
  | some rest => number? rest
  | none => .ok (identifier.toString?.elim unknown named)

end Key
end DeskCalculator
