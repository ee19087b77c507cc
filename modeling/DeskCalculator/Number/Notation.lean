import DeskCalculator.Number.Shortest

/-! Doubles as text: the shortest digits, laid out with a point or with an exponent. `Layout` holds
the choices of the format, and `Number` joins whole numbers of any size with doubles. -/

namespace DeskCalculator

/-- A leading digit at the power of ten `p` is written with a point for
`firstPositional ≤ p < firstScientific`, and with an exponent otherwise. -/
structure Layout where
  firstPositional : Int
  firstScientific : Int
  exponentWidth : Nat
  infinityText : String
  undefinedText : String

namespace Layout

/-- Positional from `0.0001` to below `10 ^ 16`, always with a fraction; the exponent has a sign and
two digits or more. -/
def plain : Layout :=
  ⟨-4, 16, 2, "inf", "nan"⟩

def zeros (count : Nat) : List Char :=
  List.replicate count '0'

def positional (digits : List Char) (power : Int) : List Char :=
  match power with
  | .negSucc down => '0' :: '.' :: zeros down ++ digits
  | .ofNat up =>
    let before := digits.take (up + 1) ++ zeros (up + 1 - digits.length)
    let after := digits.drop (up + 1)
    before ++ '.' :: (if after = [] then ['0'] else after)

def scientific (layout : Layout) (digits : List Char) (power : Int) : List Char :=
  let fraction := if digits.drop 1 = [] then [] else '.' :: digits.drop 1
  let written := Decimal.digits power.natAbs
  digits.take 1 ++ fraction ++ 'e' :: (if power < 0 then '-' else '+') ::
    zeros (layout.exponentWidth - written.length) ++ written

def size (layout : Layout) (decimal : Decimal) : List Char :=
  let digits := Decimal.digits decimal.coefficient
  let power := decimal.exponent + digits.length - 1
  if layout.firstPositional ≤ power ∧ power < layout.firstScientific then positional digits power
  else layout.scientific digits power

def write (layout : Layout) (value : Float) : String :=
  let magnitude := Binary64.magnitude value
  if Binary64.infinity < magnitude then layout.undefinedText
  else
    let sign := if Binary64.isNegative value then "-" else ""
    if magnitude = Binary64.infinity then sign ++ layout.infinityText
    else sign ++ String.ofList (layout.size (Binary64.shortest magnitude))

end Layout

inductive Number where
  | whole (number : Int)
  | real (value : Float)

namespace Number

def text : Number → String
  | .whole number => toString number
  | .real value => Layout.plain.write value

def toFloat? : Number → Option Float
  | .whole number => Binary64.ofInt? number
  | .real value => some value

end Number
end DeskCalculator
