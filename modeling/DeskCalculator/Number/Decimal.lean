/-! Decimal fractions: a sign, a whole coefficient and a power of ten. The sign is kept apart, so a
negative zero is a decimal of its own. Digits are read and written with the most significant first. -/

namespace DeskCalculator

structure Decimal where
  negative : Bool
  coefficient : Nat
  exponent : Int
deriving DecidableEq, Repr

namespace Decimal

def ofDigits (digits : List Char) : Nat :=
  Nat.ofDigitChars 10 digits 0

/-- The digits of a number without leading zeros; zero has one digit. -/
def digits (number : Nat) : List Char :=
  Nat.toDigits 10 number

theorem ofDigits_digits (number : Nat) : ofDigits (digits number) = number :=
  Nat.ofDigitChars_ten_toDigits

theorem isDigit_of_mem_digits {number : Nat} {digit : Char} (member : digit ∈ digits number) :
    digit.isDigit = true :=
  Nat.isDigit_of_mem_toDigits (by decide) (by decide) member

end Decimal
end DeskCalculator
