import DeskCalculator.Settings.Basic

/-! A settings record: named values of any kind, in the order in which they were set. It starts as the
fields of some settings, may be given any names and values, and is what a settings file stores. A
value under the name of an operation hides the operation. -/

namespace DeskCalculator

namespace Settings

inductive Operation where
  | lookUp
  | list
  | save
  | load
deriving DecidableEq, Repr

namespace Operation

def all : List Operation :=
  [lookUp, list, save, load]

def name : Operation → CodeText
  | lookUp => "key_for"
  | list => "to_dict"
  | save => "to_json"
  | load => "from_json"

def isNamed (name : CodeText) : Bool :=
  all.any fun operation => operation.name = name

end Operation
end Settings

abbrev Record := Entries CodeText Json

/-- Why a record does not answer: a value hides the operation, or stands in the place of the key map and
is no object. -/
inductive RecordError where
  | hidden (value : Json)
  | noKeyMap (value : Json)

namespace Record

def ofSettings (settings : Settings) : Record :=
  Settings.Field.all.map fun field => (field.name, settings.value field)

def hidden? (operation : Settings.Operation) (record : Record) : Option Json :=
  record.get? operation.name

def keyMap (record : Record) : Except RecordError (Entries CodeText Json) :=
  match record.get? Settings.Field.keyMap.name with
  | some (.object members) => .ok members
  | some other => .error (.noKeyMap other)
  | none => .error (.noKeyMap .null)

def putKey (key : CodeText) (value : Json) (record : Record) : Except RecordError Record :=
  record.keyMap.map fun keys => record.put Settings.Field.keyMap.name (.object (keys.put key value))

/-- What the key map says about a code point. It is not asked about anything else. -/
def keyFor (record : Record) (code : Option Int) : Except RecordError (Option Json) :=
  match record.hidden? .lookUp with
  | some value => .error (.hidden value)
  | none =>
    match code.bind Settings.keyOfCode? with
    | none => .ok none
    | some key => record.keyMap.map fun keys => keys.get? key

end Record
end DeskCalculator
