import DeskCalculator.Json.Basic
import DeskCalculator.Tree.Basic

/-! The memory bank: ten slots, each with a tree or empty. A slot may be asked for by any value; the
whole numbers from 0 to 9 and the truth values name one, and all else names none. -/

namespace DeskCalculator

abbrev slotCount : Nat := 10

abbrev Memory := Vector (Option Tree) slotCount

inductive SlotRequest where
  | number (value : Int)
  | flag (value : Bool)
  | other (shown : String)
deriving DecidableEq, Repr

namespace SlotRequest

/-- The truth values name the slots 0 and 1. -/
def slot? : SlotRequest → Option (Fin slotCount)
  | number (.ofNat index) => if inRange : index < slotCount then some ⟨index, inRange⟩ else none
  | number (.negSucc _) => none
  | flag value => some (if value then 1 else 0)
  | other _ => none

def shown : SlotRequest → String
  | number value => toString value
  | flag true => "True"
  | flag false => "False"
  | other shown => shown

def ofJson : Json → SlotRequest
  | .number (.whole value) => number value
  | .bool value => flag value
  | value => other value.shown

end SlotRequest

namespace Memory

def empty : Memory := Vector.replicate slotCount none

def occupied (memory : Memory) : List (Fin slotCount) :=
  (List.finRange slotCount).filter fun slot => (memory.get slot).isSome

end Memory
end DeskCalculator
