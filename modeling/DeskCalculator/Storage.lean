import DeskCalculator.Entries
import DeskCalculator.Storage.Path
import DeskCalculator.Text.Quoted
import DeskCalculator.Text.Utf8

/-! Files and folders. The folders above the working folder and the folder at the top are there from the
start; all else has been put into the storage. `read` and `write` give the file at the end of a path,
or the reason why there is none. -/

namespace DeskCalculator

/-- The top, or a folder so many levels above the working folder. -/
inductive Anchor where
  | top
  | working (above : Nat)
deriving DecidableEq, Repr

/-- The names on the way from an anchor, the innermost first. -/
structure Location where
  anchor : Anchor
  names : List String
deriving DecidableEq, Repr

namespace Location

def child (folder : Location) (name : String) : Location :=
  { folder with names := name :: folder.names }

/-- The folder around a location; the top has none and stays. -/
def parent (location : Location) : Location :=
  match location.names, location.anchor with
  | _ :: outer, anchor => ⟨anchor, outer⟩
  | [], .top => location
  | [], .working above => ⟨.working (above + 1), []⟩

def follow (folder : Location) : Step → Location
  | .stay => folder
  | .back => folder.parent
  | .enter name => folder.child name

end Location

def Path.start (path : Path) : Location :=
  ⟨if path.slashes = 0 then .working 0 else .top, []⟩

inductive Stored where
  | file (bytes : List UInt8)
  | folder
deriving DecidableEq, Repr

structure Storage where
  stored : Entries Location Stored

inductive StorageCause where
  | missing
  | notFolder
  | isFolder
  | nameTooLong
deriving DecidableEq, Repr

inductive StorageError where
  | refused (cause : StorageCause) (path : String)
  | embeddedNull
deriving DecidableEq, Repr

namespace StorageCause

def number : StorageCause → Nat
  | missing => 2
  | notFolder => 20
  | isFolder => 21
  | nameTooLong => 36

def text : StorageCause → String
  | missing => "No such file or directory"
  | notFolder => "Not a directory"
  | isFolder => "Is a directory"
  | nameTooLong => "File name too long"

end StorageCause

namespace StorageError

def message : StorageError → String
  | refused cause path =>
    "[Errno " ++ toString cause.number ++ "] " ++ cause.text ++ ": " ++ Text.quoted path
  | embeddedNull => "embedded null byte"

end StorageError

namespace Storage

def empty : Storage := ⟨[]⟩

def at? (storage : Storage) (location : Location) : Option Stored :=
  if location.names = [] then some .folder else storage.stored.get? location

def put (storage : Storage) (location : Location) (item : Stored) : Storage :=
  ⟨storage.stored.put location item⟩

def nameLimit : Nat := 255

def pathLimit : Nat := 4095

def child? (folder : Location) (name : String) : Except StorageCause Location :=
  if nameLimit < name.utf8ByteSize then .error .nameTooLong else .ok (folder.child name)

def enter (storage : Storage) (folder : Location) : Step → Except StorageCause Location
  | .stay => .ok folder
  | .back => .ok folder.parent
  | .enter name => do
    let location ← child? folder name
    match storage.at? location with
    | none => .error .missing
    | some (.file _) => .error .notFolder
    | some .folder => .ok location

/-- The last name of a path and the folder that it stands in. A path that ends in a dot or a double
dot, or has no steps, leads to a folder and has no last name. -/
def find (storage : Storage) (path : Path) : Except StorageCause (Option (Location × String)) :=
  if path.text = "" then .error .missing
  else if pathLimit < path.text.utf8ByteSize then .error .nameTooLong
  else do
    let folder ← path.steps.dropLast.foldlM storage.enter path.start
    match path.steps.getLast? with
    | some (.enter name) => return some (folder, name)
    | _ => return none

def fileAt (storage : Storage) (path : Path) : Except StorageCause (List UInt8) := do
  match ← storage.find path with
  | none => .error .isFolder
  | some (folder, name) =>
    match storage.at? (← child? folder name) with
    | none => .error .missing
    | some .folder => .error .isFolder
    | some (.file bytes) => if path.asFolder then .error .notFolder else .ok bytes

def placeOf (storage : Storage) (path : Path) : Except StorageCause Location := do
  match ← storage.find path with
  | none => .error .isFolder
  | some (folder, name) =>
    if path.asFolder then .error .isFolder
    else
      let location ← child? folder name
      match storage.at? location with
      | some .folder => .error .isFolder
      | _ => .ok location

def resolve {α : Type} (path : Path) (answer : Except StorageCause α) : Except StorageError α :=
  if path.text.contains '\x00' then .error .embeddedNull
  else answer.mapError fun cause => .refused cause path.text

def read (storage : Storage) (path : Path) : Except StorageError (List UInt8) :=
  resolve path (storage.fileAt path)

def write (storage : Storage) (path : Path) (bytes : List UInt8) : Except StorageError Storage :=
  (resolve path (storage.placeOf path)).map fun location => storage.put location (.file bytes)

def placeFrom (item : Stored) (storage : Storage) (location : Location) : List Step → Storage
  | [] => storage.put location item
  | step :: rest => placeFrom item (storage.put location .folder) (location.follow step) rest

def place (storage : Storage) (path : Path) (item : Stored) : Storage :=
  placeFrom item storage path.start path.steps

end Storage
end DeskCalculator
