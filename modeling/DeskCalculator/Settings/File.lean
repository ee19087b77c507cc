import DeskCalculator.Json.Reading
import DeskCalculator.Json.Writing
import DeskCalculator.Settings.Record
import DeskCalculator.Storage
import DeskCalculator.Text.LineBreak

/-! Settings files. Loading starts from the defaults and takes over the members of the file's object
that name a field and have a value of its kind. A file that is missing or is no JSON gives the
defaults; one that cannot be read as text, or holds an overlong number, gives an error. A member with a
reserved name may do more than is told here. -/

namespace DeskCalculator.Settings

structure Warning where
  name : CodeText
  value : Json

def Warning.text (warning : Warning) : String :=
  "⚠ Valor ignorado para '" ++ warning.name.shown ++ "': " ++ warning.value.quoted

/-- Attributes that every object has, besides fields and operations, begin and end with two underscores. -/
def isReserved (name : CodeText) : Bool :=
  let mark : CodeText := "__"
  4 < name.length && mark.isPrefixOf name && mark.isSuffixOf name

def arePlain (members : Entries CodeText Json) : Bool :=
  members.all fun member => !isReserved member.1

/-- The settings with the accepted members, and a warning for each refused one. No value is of the kind
of an operation, and members with other names are passed over. -/
def overlay (settings : Settings) : Entries CodeText Json → Settings × List Warning
  | [] => (settings, [])
  | (name, value) :: rest =>
    match Field.named? name with
    | some field =>
      match settings.set? field value with
      | some changed => overlay changed rest
      | none =>
        let (loaded, warnings) := overlay settings rest
        (loaded, ⟨name, value⟩ :: warnings)
    | none =>
      let (loaded, warnings) := overlay settings rest
      (loaded, if Operation.isNamed name then ⟨name, value⟩ :: warnings else warnings)

inductive LoadError where
  | storage (error : StorageError)
  | undecodable (malformed : Utf8.Malformed)
  | overlongNumber (digits : Nat)
deriving DecidableEq, Repr

def LoadError.message : LoadError → String
  | .storage error => error.message
  | .undecodable malformed => malformed.message
  | .overlongNumber digits => Numeral.overlongMessage digits

abbrev Loaded := Except LoadError (Settings × List Warning)

def ofText (source : List Char) : Loaded :=
  match Json.read source with
  | .error .malformed => .ok ({}, [])
  | .error (.tooLong digits) => .error (.overlongNumber digits)
  | .ok (.object members) => .ok (overlay {} members)
  | .ok _ => .ok ({}, [])

def ofBytes (bytes : List UInt8) : Loaded :=
  match Text.ofFile bytes with
  | .error malformed => .error (.undecodable malformed)
  | .ok source => ofText source

def load (storage : Storage) (path : Path) : Loaded :=
  match storage.read path.normal with
  | .error (.refused .missing _) => .ok ({}, [])
  | .error error => .error (.storage error)
  | .ok bytes => ofBytes bytes

end Settings

namespace Record

/-- Faults of the path or the record, which are not reported as faults of the storage. -/
inductive SaveError where
  | embeddedNull
  | hidden (value : Json)
  | unwritable (error : Json.WriteError)

structure Saved where
  storage : Storage
  answer : Except SaveError Bool
  lines : List String

def saveFailureText (error : StorageError) : String :=
  "⚠ No se pudo guardar la configuración: " ++ error.message

/-- The bytes of a settings file, all that can be written of them. Nothing can where the list of the
settings is hidden. -/
def encode (record : Record) : List UInt8 × Option SaveError :=
  match record.hidden? .list with
  | some value => ([], some (.hidden value))
  | none =>
    let (bytes, fault) := Json.encode (.object record)
    (bytes, fault.map .unwritable)

/-- A storage that refuses the file is reported on the console. What cannot be written leaves the file
with all that comes before it. -/
def save (storage : Storage) (path : Path) (record : Record) : Saved :=
  match record.hidden? .save with
  | some value => ⟨storage, .error (.hidden value), []⟩
  | none =>
    let (bytes, fault) := record.encode
    match storage.write path bytes with
    | .error (.refused cause place) =>
      ⟨storage, .ok false, [saveFailureText (.refused cause place)]⟩
    | .error .embeddedNull => ⟨storage, .error .embeddedNull, []⟩
    | .ok written =>
      match fault with
      | none => ⟨written, .ok true, []⟩
      | some error => ⟨written, .error error, []⟩

end Record
end DeskCalculator
