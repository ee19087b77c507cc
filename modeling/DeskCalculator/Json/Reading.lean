import DeskCalculator.Json.Basic

/-! Reading data files. The grammar is that of JSON with three more numbers, `NaN`, `Infinity` and
`-Infinity`. Of the members with one name the last counts, in the place of the first. A whole number
with too many digits is told apart from a text outside the grammar. -/

namespace DeskCalculator.Json

inductive ReadError where
  | malformed
  | tooLong (digits : Nat)
deriving DecidableEq, Repr

abbrev Read (α : Type) := Except ReadError (α × List Char)

def isSpace (character : Char) : Bool :=
  character = ' ' || character = '\t' || character = '\n' || character = '\r'

def skipSpace (source : List Char) : List Char :=
  source.dropWhile isSpace

def hexValue? (character : Char) : Option Nat :=
  if character.isDigit then some (character.toNat - '0'.toNat)
  else if 'a' ≤ character ∧ character ≤ 'f' then some (character.toNat - 'a'.toNat + 10)
  else if 'A' ≤ character ∧ character ≤ 'F' then some (character.toNat - 'A'.toNat + 10)
  else none

def hexUnit? (first second third fourth : Char) : Option Nat := do
  let first ← hexValue? first
  let second ← hexValue? second
  let third ← hexValue? third
  let fourth ← hexValue? fourth
  return first * 4096 + second * 256 + third * 16 + fourth

def escape? : Char → Option Char
  | '"' => some '"'
  | '\\' => some '\\'
  | '/' => some '/'
  | 'b' => some '\x08'
  | 'f' => some '\x0c'
  | 'n' => some '\n'
  | 'r' => some '\r'
  | 't' => some '\t'
  | _ => none

def isHighUnit (code : Nat) : Bool :=
  0xD800 ≤ code && code < 0xDC00

def isLowUnit (code : Nat) : Bool :=
  0xDC00 ≤ code && code < 0xE000

/-- A character beyond U+FFFF may come as a pair of units; a unit without its other half is a surrogate
of the text. -/
def joinUnits : List Nat → CodeText
  | [] => []
  | [code] => [.ofNat code]
  | high :: low :: rest =>
    if isHighUnit high && isLowUnit low then
      .ofNat (0x10000 + (high - 0xD800) * 1024 + (low - 0xDC00)) :: joinUnits rest
    else .ofNat high :: joinUnits (low :: rest)

def readCodes : List Char → Option (List Nat × List Char)
  | [] => none
  | '"' :: rest => some ([], rest)
  | '\\' :: 'u' :: first :: second :: third :: fourth :: rest =>
    match hexUnit? first second third fourth with
    | none => none
    | some code => (readCodes rest).map fun (codes, after) => (code :: codes, after)
  | '\\' :: letter :: rest =>
    match escape? letter with
    | none => none
    | some escaped => (readCodes rest).map fun (codes, after) => (escaped.toNat :: codes, after)
  | character :: rest =>
    if character.toNat < 0x20 then none
    else (readCodes rest).map fun (codes, after) => (character.toNat :: codes, after)

/-- A string whose opening quote has been read. -/
def readString (source : List Char) : Read CodeText :=
  match readCodes source with
  | none => .error .malformed
  | some (codes, rest) => .ok (joinUnits codes, rest)

def wholeDigits? : List Char → Option (List Char × List Char)
  | '0' :: rest => some (['0'], rest)
  | source =>
    let digits := Numeral.splitDigits source
    if digits.1 = [] then none else some digits

def fraction? : List Char → Option (List Char × List Char)
  | '.' :: rest =>
    let digits := Numeral.splitDigits rest
    if digits.1 = [] then none else some digits
  | _ => none

def power? : List Char → Option (Int × List Char)
  | mark :: rest =>
    if mark = 'e' ∨ mark = 'E' then
      let (negative, unsigned) := Numeral.splitSign rest
      let (digits, after) := Numeral.splitDigits unsigned
      if digits = [] then none
      else
        let size : Int := (Decimal.ofDigits digits : Nat)
        some (if negative then -size else size, after)
    else none
  | [] => none

/-- A number without fraction and exponent is whole. -/
def readNumber (negative : Bool) (source : List Char) : Read Number :=
  match wholeDigits? source with
  | none => .error .malformed
  | some (digits, rest) =>
    let (fraction, afterFraction) := (fraction? rest).getD ([], rest)
    let (power, after) := (power? afterFraction).getD (0, afterFraction)
    if (fraction? rest).isNone ∧ (power? afterFraction).isNone then
      if Numeral.digitLimit < digits.length then .error (.tooLong digits.length)
      else
        let size : Int := (Decimal.ofDigits digits : Nat)
        .ok (.whole (if negative then -size else size), rest)
    else
      let decimal : Decimal :=
        ⟨negative, Decimal.ofDigits (digits ++ fraction), power - fraction.length⟩
      .ok (.real (Binary64.toFloat negative (Binary64.ofDecimal decimal)), after)

def readName : List Char → Read CodeText
  | '"' :: source =>
    match readString source with
    | .error error => .error error
    | .ok (name, rest) =>
      match skipSpace rest with
      | ':' :: after => .ok (name, skipSpace after)
      | _ => .error .malformed
  | _ => .error .malformed

mutual

def readValue : Nat → List Char → Read Json
  | 0, _ => .error .malformed
  | fuel + 1, source =>
    match source with
    | '"' :: rest => (readString rest).map fun (value, after) => (.string value, after)
    | '\x7b' :: rest =>
      match skipSpace rest with
      | '\x7d' :: rest => .ok (.object [], rest)
      | rest => (readMembers fuel rest []).map fun (members, rest) => (.object members, rest)
    | '[' :: rest =>
      match skipSpace rest with
      | ']' :: rest => .ok (.list [], rest)
      | rest => (readItems fuel rest).map fun (items, rest) => (.list items, rest)
    | 'n' :: 'u' :: 'l' :: 'l' :: rest => .ok (.null, rest)
    | 't' :: 'r' :: 'u' :: 'e' :: rest => .ok (.bool true, rest)
    | 'f' :: 'a' :: 'l' :: 's' :: 'e' :: rest => .ok (.bool false, rest)
    | 'N' :: 'a' :: 'N' :: rest => .ok (.real Binary64.undefined, rest)
    | 'I' :: 'n' :: 'f' :: 'i' :: 'n' :: 'i' :: 't' :: 'y' :: rest =>
      .ok (.real (Binary64.toFloat false Binary64.infinity), rest)
    | '-' :: 'I' :: 'n' :: 'f' :: 'i' :: 'n' :: 'i' :: 't' :: 'y' :: rest =>
      .ok (.real (Binary64.toFloat true Binary64.infinity), rest)
    | '-' :: rest => (readNumber true rest).map fun (value, rest) => (.number value, rest)
    | rest => (readNumber false rest).map fun (value, rest) => (.number value, rest)

def readItems : Nat → List Char → Read (List Json)
  | 0, _ => .error .malformed
  | fuel + 1, source =>
    match readValue fuel source with
    | .error error => .error error
    | .ok (item, rest) =>
      match skipSpace rest with
      | ']' :: rest => .ok ([item], rest)
      | ',' :: rest => (readItems fuel (skipSpace rest)).map fun (items, rest) => (item :: items, rest)
      | _ => .error .malformed

/-- `earlier` holds the members read so far. -/
def readMembers : Nat → List Char → Entries CodeText Json → Read (Entries CodeText Json)
  | 0, _, _ => .error .malformed
  | fuel + 1, source, earlier =>
    match readName source with
    | .error error => .error error
    | .ok (name, rest) =>
      match readValue fuel rest with
      | .error error => .error error
      | .ok (value, rest) =>
        match skipSpace rest with
        | '\x7d' :: rest => .ok (earlier.put name value, rest)
        | ',' :: rest => readMembers fuel (skipSpace rest) (earlier.put name value)
        | _ => .error .malformed

end

/-- Each level of nesting takes a character and two units of fuel, so the fuel does not run out. -/
def read (source : List Char) : Except ReadError Json :=
  match readValue (2 * source.length + 2) (skipSpace source) with
  | .error error => .error error
  | .ok (value, rest) => if skipSpace rest = [] then .ok value else .error .malformed

end DeskCalculator.Json
