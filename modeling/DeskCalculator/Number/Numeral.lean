import DeskCalculator.Text.Blank
import DeskCalculator.Text.DecimalDigit
import DeskCalculator.Number.Binary64

/-! Numerals: the texts that denote numbers. Blanks around a numeral are ignored, its digits may be of
any script, and single underscores may stand between digits. `real?` reads decimal fractions,
infinities and the undefined value; `whole?` reads whole numbers. -/

namespace DeskCalculator.Numeral

/-- Removes the underscores; each must stand between two digits. -/
def withoutUnderscores? : List Char → Option (List Char)
  | [] => some []
  | '_' :: _ => none
  | digit :: '_' :: next :: rest =>
    if digit.isDigit ∧ next.isDigit then
      (withoutUnderscores? (next :: rest)).map (digit :: ·)
    else none
  | character :: rest => (withoutUnderscores? rest).map (character :: ·)

def bare? (text : List Char) : Option (List Char) :=
  withoutUnderscores? ((Text.trim text).map Text.westernDigit)

def splitSign : List Char → Bool × List Char
  | '-' :: rest => (true, rest)
  | '+' :: rest => (false, rest)
  | rest => (false, rest)

def splitDigits (text : List Char) : List Char × List Char :=
  (text.takeWhile Char.isDigit, text.dropWhile Char.isDigit)

/-- The exponent that ends a numeral; without one the power is zero. -/
def exponent? : List Char → Option Int
  | [] => some 0
  | mark :: rest =>
    if mark = 'e' ∨ mark = 'E' then
      let (negative, digits) := splitSign rest
      if digits ≠ [] ∧ digits.all Char.isDigit then
        let power : Int := (Decimal.ofDigits digits : Nat)
        some (if negative then -power else power)
      else none
    else none

def unsigned? (text : List Char) : Option (Nat × Int) :=
  let (before, rest) := splitDigits text
  let (after, rest) := match rest with
    | '.' :: fraction => splitDigits fraction
    | _ => ([], rest)
  if before ++ after = [] then none
  else (exponent? rest).map fun power => (Decimal.ofDigits (before ++ after), power - after.length)

inductive Reading where
  | decimal (value : Decimal)
  | infinite (negative : Bool)
  | undefined
deriving DecidableEq, Repr

def reading? (text : List Char) : Option Reading :=
  match bare? text with
  | none => none
  | some characters =>
    let (negative, body) := splitSign characters
    match String.ofList (body.map Char.toLower) with
    | "inf" => some (.infinite negative)
    | "infinity" => some (.infinite negative)
    | "nan" => some .undefined
    | _ => (unsigned? body).map fun (coefficient, exponent) =>
        .decimal ⟨negative, coefficient, exponent⟩

def Reading.toFloat : Reading → Float
  | .decimal value => Binary64.toFloat value.negative (Binary64.ofDecimal value)
  | .infinite negative => Binary64.toFloat negative Binary64.infinity
  | .undefined => Binary64.undefined

/-- The double closest to what the text denotes; infinite where that is beyond all finite doubles. -/
def real? (text : List Char) : Option Float :=
  (reading? text).map Reading.toFloat

def finite? (text : List Char) : Option Float :=
  Binary64.finite? (real? text)

/-- A whole number has at most this many digits, leading zeros counted. -/
def digitLimit : Nat := 4300

inductive WholeError where
  | malformed
  | tooLong (digits : Nat)
deriving DecidableEq, Repr

def limitText : String :=
  "Exceeds the limit (" ++ toString digitLimit ++ " digits) for integer string conversion"

def limitAdvice : String :=
  "; use sys.set_int_max_str_digits() to increase the limit"

def overlongMessage (digits : Nat) : String :=
  limitText ++ ": value has " ++ toString digits ++ " digits" ++ limitAdvice

def unwritableMessage : String :=
  limitText ++ limitAdvice

def isDigitOrUnderscore (character : Char) : Bool :=
  character.isDigit || character = '_'

/-- A sign and a row of digits. A row that is too long is refused before what follows it is looked at. -/
def whole? (text : List Char) : Except WholeError Int :=
  let (negative, unsigned) := splitSign ((Text.trim text).map Text.westernDigit)
  match withoutUnderscores? (unsigned.takeWhile isDigitOrUnderscore) with
  | none => .error .malformed
  | some digits =>
    if digitLimit < digits.length then .error (.tooLong digits.length)
    else if digits = [] ∨ unsigned.dropWhile isDigitOrUnderscore ≠ [] then .error .malformed
    else
      let size : Int := (Decimal.ofDigits digits : Nat)
      .ok (if negative then -size else size)

end DeskCalculator.Numeral
