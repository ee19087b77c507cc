/-! Text as code points. A code point is a character or a surrogate, half of a pair that stands for no
character by itself. Escapes in data files can name surrogates, so `CodeText`, a row of code points,
holds every text of a data file. A string is the text of its characters. -/

namespace DeskCalculator

inductive CodePoint where
  | scalar (character : Char)
  | surrogate (offset : Fin 2048)
deriving DecidableEq, Repr

namespace CodePoint

def firstSurrogate : Nat := 0xD800

def bound : Nat := 0x110000

def toNat : CodePoint → Nat
  | scalar character => character.toNat
  | surrogate offset => firstSurrogate + offset.val

def ofNat (code : Nat) : CodePoint :=
  if inRange : firstSurrogate ≤ code ∧ code - firstSurrogate < 2048 then
    surrogate ⟨code - firstSurrogate, inRange.2⟩
  else scalar (.ofNat code)

def character? : CodePoint → Option Char
  | scalar character => some character
  | surrogate _ => none

def isSurrogate : CodePoint → Bool
  | scalar _ => false
  | surrogate _ => true

/-- A surrogate is shown as the replacement character. -/
def shown : CodePoint → Char
  | scalar character => character
  | surrogate _ => '\ufffd'

end CodePoint

abbrev CodeText := List CodePoint

namespace CodeText

def ofList (characters : List Char) : CodeText :=
  characters.map .scalar

def ofString (text : String) : CodeText :=
  ofList text.toList

instance : Coe String CodeText := ⟨ofString⟩

def toString? (text : CodeText) : Option String :=
  (text.mapM CodePoint.character?).map String.ofList

def shown (text : CodeText) : String :=
  String.ofList (text.map CodePoint.shown)

end CodeText
end DeskCalculator
