import DeskCalculator.Json.Basic
import DeskCalculator.Text.Utf8

/-! Writing data files: one member or item a line, indented by four spaces a level. All characters but
quotes, backslashes and controls are written as they are. A file is written piece by piece, and two
pieces cannot be: a whole number with more digits than reading accepts, and a text with a surrogate.
What was written before such a piece is in the file. -/

namespace DeskCalculator.Json

def layout : Layout :=
  { Layout.plain with infinityText := "Infinity", undefinedText := "NaN" }

def writtenNumber : Number → String
  | .whole value => toString value
  | .real value => layout.write value

def escapedCharacter (character : Char) : List Char :=
  if character = '"' ∨ character = '\\' then ['\\', character]
  else if character = '\n' then ['\\', 'n']
  else if character = '\r' then ['\\', 'r']
  else if character = '\t' then ['\\', 't']
  else if character = '\x0c' then ['\\', 'f']
  else if character = '\x08' then ['\\', 'b']
  else if character.toNat < 0x20 then
    ['\\', 'u', '0', '0', (character.toNat / 16).digitChar, (character.toNat % 16).digitChar]
  else [character]

def escaped : CodePoint → CodeText
  | .scalar character => .ofList (escapedCharacter character)
  | .surrogate offset => [.surrogate offset]

def writtenString (text : CodeText) : CodeText :=
  .scalar '"' :: text.flatMap escaped ++ [.scalar '"']

/-- What goes into a file at once. -/
inductive Piece where
  | text (content : CodeText)
  | overlong
deriving DecidableEq, Repr

def Piece.after (lead : CodeText) : Piece → Piece
  | text content => text (lead ++ content)
  | overlong => overlong

def numberPiece (value : Number) : Piece :=
  match value with
  | .whole size =>
    if Numeral.digitLimit < (Decimal.digits size.natAbs).length then .overlong
    else .text (writtenNumber value)
  | .real _ => .text (writtenNumber value)

def isNested : Json → Bool
  | list _ => true
  | object _ => true
  | _ => false

/-- An item with the text that leads to it; only an item that holds others is apart from it. -/
def ledTo (lead : CodeText) (nested : Bool) (written : List Piece) : List Piece :=
  if nested then .text lead :: written else written.map (Piece.after lead)

def newLine (level : Nat) : CodeText :=
  .ofList ('\n' :: List.replicate (4 * level) ' ')

mutual

def pieces (level : Nat) : Json → List Piece
  | null => [.text "null"]
  | bool true => [.text "true"]
  | bool false => [.text "false"]
  | number value => [numberPiece value]
  | string value => [.text (writtenString value)]
  | list [] => [.text "[]"]
  | list (item :: items) =>
    itemPieces (level + 1) "[" (item :: items) ++ [.text (newLine level), .text "]"]
  | object [] => [.text "\x7b\x7d"]
  | object (member :: members) =>
    memberPieces (level + 1) "\x7b" (member :: members) ++ [.text (newLine level), .text "\x7d"]

def itemPieces (level : Nat) (lead : CodeText) : List Json → List Piece
  | [] => []
  | item :: rest =>
    ledTo (lead ++ newLine level) item.isNested (pieces level item) ++ itemPieces level "," rest

def memberPieces (level : Nat) (lead : CodeText) : List (CodeText × Json) → List Piece
  | [] => []
  | (name, value) :: rest =>
    [.text (lead ++ newLine level), .text (writtenString name), .text ": "] ++ pieces level value ++
      memberPieces level "," rest

end

inductive WriteError where
  | overlongNumber
  | unencodable (surrogates : Utf8.Unencodable)
deriving DecidableEq, Repr

def WriteError.message : WriteError → String
  | .overlongNumber => Numeral.unwritableMessage
  | .unencodable surrogates => surrogates.message

def Piece.encode? : Piece → Except WriteError (List UInt8)
  | text content => (Utf8.encode? content).mapError .unencodable
  | overlong => .error .overlongNumber

/-- The bytes up to the first piece that cannot be written, and why that one cannot. -/
def encodePieces : List Piece → List UInt8 × Option WriteError
  | [] => ([], none)
  | piece :: rest =>
    match piece.encode? with
    | .error error => ([], some error)
    | .ok bytes =>
      let (others, fault) := encodePieces rest
      (bytes ++ others, fault)

def encode (value : Json) : List UInt8 × Option WriteError :=
  encodePieces (pieces 0 value)

end DeskCalculator.Json
