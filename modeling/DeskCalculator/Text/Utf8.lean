import DeskCalculator.Text.Quoted

/-! Text as bytes. `encode` writes every character in its shortest form, one to four bytes; surrogates
have no such form, and `encode?` says where they stand. `decode` reads exactly the texts that are
written so, and otherwise says where and why the bytes are no text: at a byte that starts no
character, at one that does not continue the character before it, or at the end. -/

namespace DeskCalculator.Utf8

def encodeCharacter (character : Char) : List UInt8 :=
  let code := character.toNat
  if code < 0x80 then [.ofNat code]
  else if code < 0x800 then [.ofNat (0xC0 + code / 64), .ofNat (0x80 + code % 64)]
  else if code < 0x10000 then
    [.ofNat (0xE0 + code / 4096), .ofNat (0x80 + code / 64 % 64), .ofNat (0x80 + code % 64)]
  else
    [.ofNat (0xF0 + code / 262144), .ofNat (0x80 + code / 4096 % 64),
      .ofNat (0x80 + code / 64 % 64), .ofNat (0x80 + code % 64)]

def encode (text : List Char) : List UInt8 :=
  text.flatMap encodeCharacter

/-- `count` surrogates in a row from `position` on, of which `offset` is the first. -/
structure Unencodable where
  position : Nat
  count : Nat
  offset : Fin 2048
deriving DecidableEq, Repr

def encodeFrom? (position : Nat) : CodeText → Except Unencodable (List UInt8)
  | [] => .ok []
  | .scalar character :: rest =>
    (encodeFrom? (position + 1) rest).map (encodeCharacter character ++ ·)
  | .surrogate offset :: rest =>
    .error ⟨position, (rest.takeWhile CodePoint.isSurrogate).length + 1, offset⟩

def encode? (text : CodeText) : Except Unencodable (List UInt8) :=
  encodeFrom? 0 text

def Unencodable.message (unencodable : Unencodable) : String :=
  let first := unencodable.position
  let place :=
    if unencodable.count = 1 then
      "character " ++ Text.quoted [.surrogate unencodable.offset] ++ " in position " ++ toString first
    else
      "characters in position " ++ toString first ++ "-" ++ toString (first + unencodable.count - 1)
  "'utf-8' codec can't encode " ++ place ++ ": surrogates not allowed"

inductive Reason where
  | invalidStart
  | invalidContinuation
  | unexpectedEnd
deriving DecidableEq, Repr

/-- `count` bytes from `position` on are no text; `first` is the byte there. -/
structure Malformed where
  position : Nat
  count : Nat
  first : UInt8
  reason : Reason
deriving DecidableEq, Repr

/-- A character whose last bytes are still owed. The next byte lies between `low` and `high`, any later
one between `0x80` and `0xBF`. -/
structure Pending where
  start : Nat
  first : UInt8
  owed : Nat
  low : Nat
  high : Nat
  code : Nat

/-- What a first byte promises; a byte below `0x80` is a character of its own, with nothing owed. -/
def lead? (position : Nat) (byte : UInt8) : Option Pending :=
  let value := byte.toNat
  if value < 0x80 then some ⟨position, byte, 0, 0x80, 0xBF, value⟩
  else if value < 0xC2 then none
  else if value < 0xE0 then some ⟨position, byte, 1, 0x80, 0xBF, value - 0xC0⟩
  else if value = 0xE0 then some ⟨position, byte, 2, 0xA0, 0xBF, value - 0xE0⟩
  else if value = 0xED then some ⟨position, byte, 2, 0x80, 0x9F, value - 0xE0⟩
  else if value < 0xF0 then some ⟨position, byte, 2, 0x80, 0xBF, value - 0xE0⟩
  else if value = 0xF0 then some ⟨position, byte, 3, 0x90, 0xBF, value - 0xF0⟩
  else if value < 0xF4 then some ⟨position, byte, 3, 0x80, 0xBF, value - 0xF0⟩
  else if value = 0xF4 then some ⟨position, byte, 3, 0x80, 0x8F, value - 0xF0⟩
  else none

def Pending.malformed (pending : Pending) (position : Nat) (reason : Reason) : Malformed :=
  ⟨pending.start, position - pending.start, pending.first, reason⟩

def decodeFrom (position : Nat) : Option Pending → List UInt8 → Except Malformed (List Char)
  | none, [] => .ok []
  | some pending, [] => .error (pending.malformed position .unexpectedEnd)
  | none, byte :: rest =>
    match lead? position byte with
    | none => .error ⟨position, 1, byte, .invalidStart⟩
    | some pending =>
      if pending.owed = 0 then
        (decodeFrom (position + 1) none rest).map (.ofNat pending.code :: ·)
      else decodeFrom (position + 1) (some pending) rest
  | some pending, byte :: rest =>
    let code := pending.code * 64 + (byte.toNat - 0x80)
    if pending.low ≤ byte.toNat ∧ byte.toNat ≤ pending.high then
      if pending.owed = 1 then (decodeFrom (position + 1) none rest).map (.ofNat code :: ·)
      else
        let next : Pending :=
          { pending with owed := pending.owed - 1, low := 0x80, high := 0xBF, code := code }
        decodeFrom (position + 1) (some next) rest
    else .error (pending.malformed position .invalidContinuation)

def decode (bytes : List UInt8) : Except Malformed (List Char) :=
  decodeFrom 0 none bytes

def Reason.text : Reason → String
  | .invalidStart => "invalid start byte"
  | .invalidContinuation => "invalid continuation byte"
  | .unexpectedEnd => "unexpected end of data"

def hexByte (byte : UInt8) : String :=
  String.ofList [(byte.toNat / 16).digitChar, (byte.toNat % 16).digitChar]

def Malformed.message (malformed : Malformed) : String :=
  let place :=
    if malformed.count = 1 then
      "byte 0x" ++ hexByte malformed.first ++ " in position " ++ toString malformed.position
    else
      "bytes in position " ++ toString malformed.position ++ "-" ++
        toString (malformed.position + malformed.count - 1)
  "'utf-8' codec can't decode " ++ place ++ ": " ++ malformed.reason.text

end DeskCalculator.Utf8
