import DeskCalculator.Number.Binary64

/-! The decimal with the fewest digits that is closest to a given double and to no other. A double
lies between two neighbours on each decimal grid. From one digit upward, the first grid with a
neighbour that rounds back to the double gives the decimal: of two such neighbours the closer one,
and the even one where both are equally close. -/

namespace DeskCalculator.Binary64

/-- The number of digits before the point; zero has none. -/
def digitCount (number : Nat) : Nat :=
  if number = 0 then 0 else (Decimal.digits number).length

def leadingPower (numerator denominator : Nat) : Int :=
  if denominator ≤ numerator then (digitCount (numerator / denominator) : Int) - 1
  else -(digitCount ((denominator - 1) / numerator) : Int)

def scaled (numerator denominator : Nat) (power : Int) : Nat × Nat :=
  match power with
  | .ofNat up => (numerator, denominator * Nat.pow 10 up)
  | .negSucc down => (numerator * Nat.pow 10 (down + 1), denominator)

/-- The neighbour above on a grid; a power of ten is written with one digit. -/
def above (below : Nat) (grid : Int) (count : Nat) : Decimal :=
  if below + 1 = Nat.pow 10 count then ⟨false, 1, grid + count⟩ else ⟨false, below + 1, grid⟩

/-- The neighbour on the grid of `count` digits that rounds back to the magnitude. -/
def onGrid? (magnitude : Nat) (leading : Int) (count : Nat) : Option Decimal :=
  let grid := leading - count + 1
  let (numerator, denominator) := scaled (units magnitude) unit grid
  let quotient := numerator / denominator
  let doubled := 2 * (numerator % denominator)
  let lower : Decimal := ⟨false, quotient, grid⟩
  let upper := above quotient grid count
  let lowerFits := ofDecimal lower = magnitude
  let upperFits := ofDecimal upper = magnitude
  let preferLower := doubled < denominator ∨ (doubled = denominator ∧ quotient % 2 = 0)
  if lowerFits ∧ (preferLower ∨ ¬ upperFits) then some lower
  else if upperFits then some upper
  else none

/-- All digits of a finite magnitude: `u / 2 ^ 1074` is `u * 5 ^ 1074 / 10 ^ 1074`. -/
def exact (magnitude : Nat) : Decimal :=
  ⟨false, units magnitude * Nat.pow 5 1074, -1074⟩

/-- The shortest decimal of a finite magnitude. Seventeen digits always suffice. -/
def shortest (magnitude : Nat) : Decimal :=
  if magnitude = 0 then ⟨false, 0, 0⟩
  else
    let leading := leadingPower (units magnitude) unit
    (((List.range 17).map (· + 1)).findSome? (onGrid? magnitude leading)).getD (exact magnitude)

end DeskCalculator.Binary64
