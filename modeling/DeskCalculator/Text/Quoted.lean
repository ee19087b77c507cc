import DeskCalculator.Text.CodePoint
import DeskCalculator.Text.Printable

/-! Text in quotes, as warnings and error messages show it. Single quotes are used unless the text holds
a single quote and no double one. The quote in use, the backslash and all that is not printable,
surrogates included, are escaped, so a quoted text is one printable line. -/

namespace DeskCalculator.Text

def quoteFor (text : CodeText) : Char :=
  if text.contains (.scalar '\'') && !text.contains (.scalar '"') then '"' else '\''

def hexadecimal (width code : Nat) : List Char :=
  let digits := Nat.toDigits 16 code
  List.replicate (width - digits.length) '0' ++ digits

def escapedCharacter (quote character : Char) : List Char :=
  let code := character.toNat
  if character = quote ∨ character = '\\' then ['\\', character]
  else if character = '\t' then ['\\', 't']
  else if character = '\n' then ['\\', 'n']
  else if character = '\r' then ['\\', 'r']
  else if isPrintable character then [character]
  else if code < 0x100 then '\\' :: 'x' :: hexadecimal 2 code
  else if code < 0x10000 then '\\' :: 'u' :: hexadecimal 4 code
  else '\\' :: 'U' :: hexadecimal 8 code

def escaped (quote : Char) : CodePoint → List Char
  | .scalar character => escapedCharacter quote character
  | .surrogate offset => '\\' :: 'u' :: hexadecimal 4 (CodePoint.surrogate offset).toNat

def quoted (text : CodeText) : String :=
  let quote := quoteFor text
  String.ofList (quote :: text.flatMap (escaped quote) ++ [quote])

end DeskCalculator.Text
