import DeskCalculator.Number.Notation

/-! The clock that makes the cursor blink. Its time is a whole number or a double; one that is no finite
double, when doubled, has no half seconds to count. -/

namespace DeskCalculator

inductive ClockError where
  | infinite
  | undefined
deriving DecidableEq, Repr

def ClockError.message : ClockError → String
  | .infinite => "cannot convert float infinity to integer"
  | .undefined => "cannot convert float NaN to integer"

namespace Clock

def halfSeconds (now : Number) : Except ClockError Int :=
  match now with
  | .whole seconds => .ok (seconds * 2)
  | .real seconds =>
    match Binary64.truncate? (seconds * 2) with
    | some halves => .ok halves
    | none => if (seconds * 2).isNaN then .error .undefined else .error .infinite

/-- The cursor is there in the first half of each second. -/
def showsCursor (now : Number) : Except ClockError Bool :=
  (halfSeconds now).map fun halves => halves % 2 = 0

end Clock
end DeskCalculator
