import DeskCalculator.Entries
import DeskCalculator.Operator.Arithmetic

/-! The operators that a session knows, by name. A name is an operator's symbol or an alias of a name
known before it. Where two operators share a symbol the later one has it. -/

namespace DeskCalculator

/-- `places` leads from a name to the place of its operator in the list. -/
structure Registry where
  operators : List Operator
  places : Entries String Nat

namespace Registry

def symbolPlaces (operators : List Operator) : Entries String Nat :=
  Entries.ofPairs ((operators.map Operator.symbol).zip (List.range operators.length))

/-- An alias of a name that is not known is left out. -/
def addAlias (places : Entries String Nat) (entry : String × String) : Entries String Nat :=
  match places.get? entry.2 with
  | some place => places.put entry.1 place
  | none => places

def ofParts (operators : List Operator) (aliases : Entries String String) : Registry :=
  ⟨operators, aliases.foldl addAlias (symbolPlaces operators)⟩

def keyboardAliases : Entries String String :=
  [("-", "−"), ("*", "×"), ("/", "÷")]

def standard : Registry :=
  ofParts Operator.arithmetic keyboardAliases

def place? (registry : Registry) (name : String) : Option Nat :=
  registry.places.get? name

def lookup? (registry : Registry) (name : String) : Option Operator :=
  (registry.place? name).bind (registry.operators[·]?)

def contains (registry : Registry) (name : String) : Bool :=
  (registry.place? name).isSome

def symbols (registry : Registry) : List String :=
  registry.operators.map Operator.symbol

end Registry
end DeskCalculator
