import DeskCalculator.Json.Basic

/-! What is said for digits, operators, results and memory. -/

namespace DeskCalculator.Phrase

def digitNames : List String :=
  ["cero", "uno", "dos", "tres", "cuatro", "cinco", "seis", "siete", "ocho", "nueve"]

def digitName? (number : Int) : Option String :=
  match number with
  | .ofNat digit => digitNames[digit]?
  | .negSucc _ => none

def number (value : Int) : String :=
  (digitName? value).getD (toString value)

/-- The whole number that a value equals; a truth value equals one or zero. -/
def wholeValue? : Json → Option Int
  | .bool value => some (if value then 1 else 0)
  | .number (.whole value) => some value
  | .number (.real value) => Binary64.whole? value
  | _ => none

/-- A value that equals a digit has the digit's name; another is said as it shows. -/
def numberValue (value : Json) : String :=
  ((wholeValue? value).bind digitName?).getD value.shown

def operatorNames : Entries String String :=
  [("+", "más"), ("−", "menos"), ("-", "menos"), ("×", "por"), ("*", "por"),
    ("÷", "dividido entre"), ("/", "dividido entre"), ("√", "raíz cuadrada")]

def operation (symbol : String) : String :=
  (operatorNames.get? symbol).getD symbol

def spokenCharacter (character : Char) : List Char :=
  if character = '-' then "menos ".toList
  else if character = '.' then " coma ".toList
  else [character]

def result (shown : String) : String :=
  if shown = "_" then "sin resultado"
  else "igual a " ++ String.ofList (shown.toList.flatMap spokenCharacter)

def memory (action slot : String) : String :=
  "memoria " ++ slot ++ " " ++ action

end DeskCalculator.Phrase
