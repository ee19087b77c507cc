import DeskCalculator.Number.Decimal

/-! Doubles as counted magnitudes. The magnitudes of the doubles, zero and infinity included, are
numbered in increasing order from 0, so that magnitude `k` is a whole number of units of `2 ^ -1074`.
`nearest` rounds any fraction to a magnitude in exact arithmetic: to the closest one, and to the
even-numbered one where two are equally close. -/

namespace DeskCalculator.Binary64

/-- The smallest positive double is `1 / unit`. -/
def unit : Nat := Nat.pow 2 1074

/-- As many magnitudes share one spacing as a significand has values. -/
def span : Nat := Nat.pow 2 52

def infinity : Nat := 2047 * span

/-- The spacing of the doubles about magnitude `k` is `2 ^ scale k` units. -/
def scale (magnitude : Nat) : Nat :=
  magnitude / span - 1

def significand (magnitude : Nat) : Nat :=
  magnitude - scale magnitude * span

def units (magnitude : Nat) : Nat :=
  significand magnitude * Nat.pow 2 (scale magnitude)

/-- The quotient rounded to the closest whole number, a half to the even one. -/
def roundedQuotient (numerator denominator : Nat) : Nat :=
  let quotient := numerator / denominator
  let doubled := 2 * (numerator % denominator)
  if doubled < denominator then quotient
  else if denominator < doubled then quotient + 1
  else quotient + quotient % 2

/-- The magnitude closest to a fraction. A quotient in units with more bits than a significand has
is rounded at the spacing that its leading bit calls for. -/
def nearest (numerator denominator : Nat) : Nat :=
  let shift := (numerator * unit / denominator).log2 - 52
  min (roundedQuotient (numerator * unit) (denominator * Nat.pow 2 shift) + shift * span) infinity

/-- The magnitude closest to a decimal. Decimals beyond all doubles, or below half of the smallest,
are told by their exponents, so that no power of ten is built for them. -/
def ofDecimal (decimal : Decimal) : Nat :=
  match decimal.exponent with
  | .ofNat power =>
    if decimal.coefficient = 0 then 0
    else if 310 < power then infinity
    else nearest (decimal.coefficient * Nat.pow 10 power) 1
  | .negSucc power =>
    if decimal.coefficient.log2 + 1077 < 3 * (power + 1) then 0
    else nearest decimal.coefficient (Nat.pow 10 (power + 1))

/-- The sign of a double is worth this much in its bits; the magnitude is the rest. -/
def signWeight : Nat := Nat.pow 2 63

def magnitude (value : Float) : Nat :=
  value.toBits.toNat % signWeight

def isNegative (value : Float) : Bool :=
  signWeight ≤ value.toBits.toNat

def toFloat (negative : Bool) (magnitude : Nat) : Float :=
  Float.ofBits (.ofNat (if negative then magnitude + signWeight else magnitude))

def undefined : Float :=
  toFloat false (infinity + span / 2)

def finite? (result : Option Float) : Option Float :=
  result.filter Float.isFinite

def whole? (value : Float) : Option Int :=
  if magnitude value < infinity ∧ units (magnitude value) % unit = 0 then
    let size : Int := (units (magnitude value) / unit : Nat)
    some (if isNegative value then -size else size)
  else none

def truncate? (value : Float) : Option Int :=
  if magnitude value < infinity then
    let size : Int := (units (magnitude value) / unit : Nat)
    some (if isNegative value then -size else size)
  else none

/-- The double closest to a whole number, unless the number is too large for a finite one. -/
def ofInt? (number : Int) : Option Float :=
  let rounded := nearest number.natAbs 1
  if rounded < infinity then some (toFloat (number < 0) rounded) else none

end DeskCalculator.Binary64
