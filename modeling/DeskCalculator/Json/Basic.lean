import DeskCalculator.Entries
import DeskCalculator.Number.Notation
import DeskCalculator.Number.Numeral
import DeskCalculator.Text.Quoted

/-! Values of data files. Whole numbers have any size and are kept apart from doubles; the members of an
object keep their order, and names and strings may hold surrogates. `quoted` is the text of a value in
warnings, and `shown` the same but for a string, which shows as itself. -/

namespace DeskCalculator

inductive Json where
  | null
  | bool (value : Bool)
  | number (value : Number)
  | string (value : CodeText)
  | list (items : List Json)
  | object (members : List (CodeText × Json))

namespace Json

def whole (value : Int) : Json :=
  number (.whole value)

def real (value : Float) : Json :=
  number (.real value)

mutual

def quoted : Json → String
  | null => "None"
  | bool true => "True"
  | bool false => "False"
  | number value => value.text
  | string value => Text.quoted value
  | list items => "[" ++ quotedItems items ++ "]"
  | object members => "\x7b" ++ quotedMembers members ++ "\x7d"

def quotedItems : List Json → String
  | [] => ""
  | [item] => quoted item
  | item :: next :: rest => quoted item ++ ", " ++ quotedItems (next :: rest)

def quotedMembers : List (CodeText × Json) → String
  | [] => ""
  | [(name, value)] => Text.quoted name ++ ": " ++ quoted value
  | (name, value) :: next :: rest =>
    Text.quoted name ++ ": " ++ quoted value ++ ", " ++ quotedMembers (next :: rest)

end

def shown : Json → String
  | string value => value.shown
  | other => other.quoted

end Json
end DeskCalculator
