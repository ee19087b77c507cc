import DeskCalculator.Proofs.StoredFile
import DeskCalculator.Proofs.TextFile
import DeskCalculator.Settings.File
import Mathlib.Control.Monad.Basic

/-! Loading settings from any path. A file that is missing and a text that is no object give the defaults.
Loading fails where the storage refuses the path for another reason, where the bytes are no text, and
where a number has too many digits. -/

namespace DeskCalculator

namespace Json

/-! ### Overlong numbers -/

/-- So many digits in a row, more than a whole number may have. -/
structure Overlong (source : List Char) (digits : Nat) : Prop where
  excess : Numeral.digitLimit < digits
  row : ∃ row, row <:+: source ∧ row.length = digits ∧ ∀ digit ∈ row, digit.isDigit = true

def ReadError.Within (source : List Char) : ReadError → Prop
  | malformed => True
  | tooLong digits => Overlong source digits

/-- What is left is the end of the text, and a number that is too long stands in the text. -/
def Within {α : Type} (source : List Char) : Read α → Prop
  | .ok (_, rest) => rest <:+ source
  | .error error => error.Within source

theorem Within.of_suffix {α : Type} {read : Read α} {source whole : List Char}
    (within : Within source read) (suffix : source <:+ whole) : Within whole read := by
  cases read with
  | ok found => exact List.IsSuffix.trans within suffix
  | error error =>
      cases error with
      | malformed => trivial
      | tooLong digits =>
          obtain ⟨excess, row, inside, count, all⟩ := within
          exact ⟨excess, row, inside.trans suffix.isInfix, count, all⟩

theorem Within.map {α β : Type} {read : Read α} {source : List Char} (within : Within source read)
    (change : α → β) : Within source (read.map fun (value, rest) => (change value, rest)) := by
  cases read with
  | ok found => exact within
  | error error => exact within

theorem skipSpace_suffix (source : List Char) : skipSpace source <:+ source :=
  List.dropWhile_suffix _

/-- What comes after the first character that is no space. -/
theorem suffix_of_skipSpace {source after : List Char} {first : Char}
    (skipped : skipSpace source = first :: after) : after <:+ source := by
  have left := skipSpace_suffix source
  rw [skipped] at left
  exact (List.suffix_cons first after).trans left

theorem readCodes_suffix {source rest : List Char} {codes : List Nat}
    (read : readCodes source = some (codes, rest)) : rest <:+ source := by
  fun_induction readCodes source generalizing codes rest with
  | case2 after =>
      cases read
      exact List.suffix_cons _ _
  | case4 first second third fourth after code unit inductionHypothesis =>
      obtain ⟨⟨inner, left⟩, done, same⟩ := Option.map_eq_some_iff.mp read
      cases same
      exact (inductionHypothesis done).trans ⟨['\\', 'u', first, second, third, fourth], rfl⟩
  | case6 letter after other escaped meaning inductionHypothesis =>
      obtain ⟨⟨inner, left⟩, done, same⟩ := Option.map_eq_some_iff.mp read
      cases same
      exact (inductionHypothesis done).trans ⟨['\\', letter], rfl⟩
  | case8 character after _ _ _ _ inductionHypothesis =>
      obtain ⟨⟨inner, left⟩, done, same⟩ := Option.map_eq_some_iff.mp read
      cases same
      exact (inductionHypothesis done).trans (List.suffix_cons _ _)
  | _ => cases read

theorem readString_within (source : List Char) : Within source (readString source) := by
  unfold readString
  split
  · trivial
  · rename_i codes rest read
    exact readCodes_suffix read

theorem of_wholeDigits? {source digits rest : List Char}
    (split : wholeDigits? source = some (digits, rest)) :
    digits ++ rest = source ∧ ∀ digit ∈ digits, digit.isDigit = true := by
  unfold wholeDigits? at split
  split at split
  · cases split
    refine ⟨rfl, ?_⟩
    intro digit member
    rw [List.mem_singleton.mp member]
    rfl
  · dsimp only at split
    split at split
    · cases split
    · cases split
      refine ⟨List.takeWhile_append_dropWhile, ?_⟩
      exact List.all_eq_true.mp List.all_takeWhile

theorem fraction?_suffix {source digits rest : List Char}
    (split : fraction? source = some (digits, rest)) : rest <:+ source := by
  unfold fraction? at split
  split at split
  · rename_i after
    dsimp only at split
    split at split
    · cases split
    · cases split
      exact (List.dropWhile_suffix _).trans (List.suffix_cons _ _)
  · cases split

theorem splitSign_suffix (source : List Char) : (Numeral.splitSign source).2 <:+ source := by
  unfold Numeral.splitSign
  split
  · exact List.suffix_cons _ _
  · exact List.suffix_cons _ _
  · exact List.suffix_rfl

theorem power?_suffix {source rest : List Char} {power : Int}
    (split : power? source = some (power, rest)) : rest <:+ source := by
  unfold power? at split
  split at split
  · split at split
    · dsimp only at split
      split at split
      · cases split
      · cases split
        exact (List.dropWhile_suffix _).trans
          ((splitSign_suffix _).trans (List.suffix_cons _ _))
    · cases split
  · cases split

theorem readNumber_within (negative : Bool) (source : List Char) :
    Within source (readNumber negative source) := by
  unfold readNumber
  split
  · trivial
  · rename_i digits rest split
    obtain ⟨whole, all⟩ := of_wholeDigits? split
    have tail : rest <:+ source := ⟨digits, whole⟩
    have afterFraction : ((fraction? rest).getD ([], rest)).2 <:+ source := by
      cases found : fraction? rest with
      | none => exact tail
      | some fraction => exact (fraction?_suffix found).trans tail
    dsimp only
    split
    · split
      · rename_i excess
        exact ⟨excess, digits, ⟨[], rest, whole⟩, rfl, all⟩
      · exact tail
    · unfold Within
      cases found : power? ((fraction? rest).getD ([], rest)).2 with
      | none => exact afterFraction
      | some power => exact (power?_suffix found).trans afterFraction

theorem readName_within (source : List Char) : Within source (readName source) := by
  unfold readName
  split
  · rename_i inner
    have named := readString_within inner
    have start := List.suffix_cons '"' inner
    split
    · rename_i error failed
      rw [failed] at named
      exact @Within.of_suffix CodeText (.error error) _ _ named start
    · rename_i name rest found
      rw [found] at named
      split
      · rename_i after skipped
        have named : rest <:+ inner := named
        exact (skipSpace_suffix after).trans
          ((suffix_of_skipSpace skipped).trans (named.trans start))
      · trivial
  · trivial

structure ReadsWithin (fuel : Nat) : Prop where
  value : ∀ source, Within source (readValue fuel source)
  items : ∀ source, Within source (readItems fuel source)
  members : ∀ source earlier, Within source (readMembers fuel source earlier)

section
variable {fuel : Nat} (inside : ReadsWithin fuel)
include inside

theorem ReadsWithin.readValue (source : List Char) :
    Within source (Json.readValue (fuel + 1) source) := by
  unfold Json.readValue
  split
  · exact ((readString_within _).map _).of_suffix (List.suffix_cons _ _)
  · rename_i rest
    have start := List.suffix_cons '\x7b' rest
    split
    · rename_i after skipped
      exact (suffix_of_skipSpace skipped).trans start
    · exact ((inside.members _ []).map _).of_suffix ((skipSpace_suffix rest).trans start)
  · rename_i rest
    have start := List.suffix_cons '[' rest
    split
    · rename_i after skipped
      exact (suffix_of_skipSpace skipped).trans start
    · exact ((inside.items _).map _).of_suffix ((skipSpace_suffix rest).trans start)
  · exact ⟨"null".toList, rfl⟩
  · exact ⟨"true".toList, rfl⟩
  · exact ⟨"false".toList, rfl⟩
  · exact ⟨"NaN".toList, rfl⟩
  · exact ⟨"Infinity".toList, rfl⟩
  · exact ⟨"-Infinity".toList, rfl⟩
  · exact ((readNumber_within true _).map _).of_suffix (List.suffix_cons _ _)
  · exact (readNumber_within false _).map _

theorem ReadsWithin.readItems (source : List Char) :
    Within source (Json.readItems (fuel + 1) source) := by
  unfold Json.readItems
  have first := inside.value source
  split
  · rename_i error failed
    rw [failed] at first
    exact first
  · rename_i item rest found
    rw [found] at first
    split
    · rename_i after skipped
      exact (suffix_of_skipSpace skipped).trans first
    · rename_i after skipped
      have next := (skipSpace_suffix after).trans ((suffix_of_skipSpace skipped).trans first)
      exact ((inside.items _).map _).of_suffix next
    · trivial

theorem ReadsWithin.readMembers (source : List Char) (earlier : Entries CodeText Json) :
    Within source (Json.readMembers (fuel + 1) source earlier) := by
  unfold Json.readMembers
  have named := readName_within source
  split
  · rename_i error failed
    rw [failed] at named
    exact named
  · rename_i name afterName found
    rw [found] at named
    have valued := (inside.value afterName).of_suffix named
    split
    · rename_i error failed
      rw [failed] at valued
      exact valued
    · rename_i value rest found
      rw [found] at valued
      split
      · rename_i after skipped
        exact (suffix_of_skipSpace skipped).trans valued
      · rename_i after skipped
        have next := (skipSpace_suffix after).trans ((suffix_of_skipSpace skipped).trans valued)
        exact (inside.members _ _).of_suffix next
      · trivial

end

theorem readsWithin (fuel : Nat) : ReadsWithin fuel := by
  induction fuel with
  | zero => exact ⟨fun _ => trivial, fun _ => trivial, fun _ _ => trivial⟩
  | succ fuel inside => exact ⟨inside.readValue, inside.readItems, inside.readMembers⟩

theorem overlong_of_read {source : List Char} {digits : Nat}
    (failed : Json.read source = .error (.tooLong digits)) : Overlong source digits := by
  unfold Json.read at failed
  have within := ((readsWithin (2 * source.length + 2)).value (skipSpace source)).of_suffix
    (skipSpace_suffix source)
  split at failed
  · rename_i error found
    cases failed
    rw [found] at within
    exact within
  · split at failed <;> cases failed

end Json

/-! ### Loading -/

namespace Settings

def HoldsObject (storage : Storage) (path : Path) (members : Entries CodeText Json) : Prop :=
  ∃ text, storage.read path.normal = .ok (Utf8.encode text) ∧
    Json.read (Text.unifyLineBreaks text) = .ok (.object members)

/-- The file of a path, if it holds an object, has no member with a reserved name. What such a member does is
not modelled by `overlay`. -/
def NamesPlain (storage : Storage) (path : Path) : Prop :=
  ∀ members, HoldsObject storage path members → arePlain members = true

/-- The storage refuses a path and not because nothing is there, or what is there cannot be read. -/
inductive Unreadable (storage : Storage) (path : Path) : LoadError → Prop
  | refused {error : StorageError} : storage.read path.normal = .error error →
      (∀ place, error ≠ .refused .missing place) → Unreadable storage path (.storage error)
  | undecodable {bytes : List UInt8} {malformed : Utf8.Malformed} :
      storage.read path.normal = .ok bytes → Utf8.decode bytes = .error malformed →
      Unreadable storage path (.undecodable malformed)
  | overlong {text : List Char} {digits : Nat} :
      storage.read path.normal = .ok (Utf8.encode text) →
      Json.read (Text.unifyLineBreaks text) = .error (.tooLong digits) →
      Unreadable storage path (.overlongNumber digits)

section
variable {storage : Storage} {path : Path}

theorem load_of_refused {error : StorageError} (refused : storage.read path.normal = .error error)
    (other : ∀ place, error ≠ .refused .missing place) :
    load storage path = .error (.storage error) := by
  unfold load
  rw [refused]
  split
  · rename_i place missing
    cases missing
    exact absurd rfl (other place)
  · rename_i same
    cases same
    rfl
  · rename_i impossible
    cases impossible

theorem load_of_missing {place : String}
    (missing : storage.read path.normal = .error (.refused .missing place)) :
    load storage path = .ok ({}, []) := by
  rw [load, missing]

theorem load_of_undecodable {bytes : List UInt8} {malformed : Utf8.Malformed}
    (found : storage.read path.normal = .ok bytes) (failed : Utf8.decode bytes = .error malformed) :
    load storage path = .error (.undecodable malformed) := by
  simp only [load, found, ofBytes, Text.ofFile, failed, Except.map]

theorem load_of_text {text : List Char} (found : storage.read path.normal = .ok (Utf8.encode text)) :
    load storage path = ofText (Text.unifyLineBreaks text) := by
  simp only [load, found, ofBytes, Text.ofFile, Utf8.decode_encode, Except.map]

theorem load_of_unreadable {error : LoadError} (unreadable : Unreadable storage path error) :
    load storage path = .error error := by
  cases unreadable with
  | refused refused other => exact load_of_refused refused other
  | undecodable found failed => exact load_of_undecodable found failed
  | overlong found tooLong => rw [load_of_text found, ofText, tooLong]

theorem load_of_object {members : Entries CodeText Json}
    (object : HoldsObject storage path members) :
    load storage path = .ok (overlay {} members) := by
  obtain ⟨text, found, read⟩ := object
  rw [load_of_text found, ofText, read]

theorem holdsObject_iff {text : List Char}
    (found : storage.read path.normal = .ok (Utf8.encode text)) (members : Entries CodeText Json) :
    HoldsObject storage path members ↔
      Json.read (Text.unifyLineBreaks text) = .ok (.object members) := by
  constructor
  · rintro ⟨again, foundToo, read⟩
    rw [found] at foundToo
    have decoded := Utf8.decode_encode text
    rw [Except.ok.inj foundToo, Utf8.decode_encode] at decoded
    rwa [Except.ok.inj decoded] at read
  · exact fun read => ⟨text, found, read⟩

def isObjectWith (test : Entries CodeText Json → Bool) : Json → Bool
  | .object members => test members
  | _ => false

theorem exists_holdsObject {text : List Char} {test : Entries CodeText Json → Bool}
    (found : storage.read path.normal = .ok (Utf8.encode text))
    (passed : (Json.read (Text.unifyLineBreaks text)).toOption.any
      (isObjectWith fun members => arePlain members && test members) = true) :
    ∃ members, HoldsObject storage path members ∧ NamesPlain storage path ∧ test members = true := by
  cases read : Json.read (Text.unifyLineBreaks text) with
  | error error =>
      rw [read] at passed
      cases passed
  | ok value =>
      rw [read] at passed
      cases value with
      | object members =>
          obtain ⟨plain, tested⟩ := Bool.and_eq_true_iff.mp passed
          refine ⟨members, (holdsObject_iff found members).mpr read, ?_, tested⟩
          intro others held
          rw [holdsObject_iff found, read] at held
          cases held
          exact plain
      | _ => cases passed

theorem load_of_other {text : List Char}
    (found : storage.read path.normal = .ok (Utf8.encode text))
    (short : ∀ digits, Json.read (Text.unifyLineBreaks text) ≠ .error (.tooLong digits))
    (other : ∀ members, Json.read (Text.unifyLineBreaks text) ≠ .ok (.object members)) :
    load storage path = .ok ({}, []) := by
  rw [load_of_text found]
  unfold ofText
  split
  · rfl
  · rename_i digits tooLong
    exact absurd tooLong (short digits)
  · rename_i members read
    exact absurd read (other members)
  · rfl

/-- There is nothing, something that cannot be read, the text of an object, or another text. -/
theorem load_cases (storage : Storage) (path : Path) :
    (∃ error, Unreadable storage path error) ∨ (∃ members, HoldsObject storage path members) ∨
    ((∀ members, ¬ HoldsObject storage path members) ∧ load storage path = .ok ({}, [])) := by
  cases found : storage.read path.normal with
  | error error =>
      by_cases missing : ∃ place, error = .refused .missing place
      · obtain ⟨place, rfl⟩ := missing
        refine .inr (.inr ⟨?_, load_of_missing found⟩)
        rintro members ⟨text, impossible, _⟩
        rw [found] at impossible
        cases impossible
      · exact .inl ⟨.storage error, .refused found fun place same => missing ⟨place, same⟩⟩
  | ok bytes =>
      cases decoded : Utf8.decode bytes with
      | error malformed => exact .inl ⟨.undecodable malformed, .undecodable found decoded⟩
      | ok text =>
          rw [Utf8.decode_eq_ok_iff.mp decoded] at found
          by_cases long : ∃ digits,
              Json.read (Text.unifyLineBreaks text) = .error (.tooLong digits)
          · obtain ⟨digits, tooLong⟩ := long
            exact .inl ⟨.overlongNumber digits, .overlong found tooLong⟩
          · by_cases object : ∃ members,
                Json.read (Text.unifyLineBreaks text) = .ok (.object members)
            · obtain ⟨members, read⟩ := object
              exact .inr (.inl ⟨members, text, found, read⟩)
            · have short := not_exists.mp long
              have other := not_exists.mp object
              have noObject (members : Entries CodeText Json) : ¬ HoldsObject storage path members :=
                fun held => other members ((holdsObject_iff found members).mp held)
              exact .inr (.inr ⟨noObject, load_of_other found short other⟩)

end

/-- Any storage and any path, unless the file has a member with a reserved name. Loading fails exactly where
the storage refuses the path for another reason than that nothing is there, where the bytes are no text at
all, and where a whole number is met that has more than 4300 digits. Of the rest, a text of an object gives
what its members make of the defaults, and all else gives the defaults. -/
theorem load_falls_back (storage : Storage) (path : Path) (_plain : NamesPlain storage path) :
    (∀ error, load storage path = .error error ↔ Unreadable storage path error) ∧
    (∀ bytes, (∃ malformed, Utf8.decode bytes = .error malformed) ↔
      ∀ text, bytes ≠ Utf8.encode text) ∧
    (∀ source digits, Json.read source = .error (.tooLong digits) →
      Json.Overlong source digits) ∧
    (∀ members, HoldsObject storage path members →
      load storage path = .ok (overlay {} members)) ∧
    ((∀ error, ¬ Unreadable storage path error) →
      (∀ members, ¬ HoldsObject storage path members) → load storage path = .ok ({}, [])) := by
  refine ⟨fun error => ⟨fun failed => ?_, load_of_unreadable⟩, fun bytes => ?_,
    fun _ _ => Json.overlong_of_read, fun _ => load_of_object, fun readable noObject => ?_⟩
  · rcases load_cases storage path with ⟨other, unreadable⟩ | ⟨members, object⟩ | ⟨_, defaults⟩
    · rw [load_of_unreadable unreadable] at failed
      cases failed
      exact unreadable
    · rw [load_of_object object] at failed
      cases failed
    · rw [defaults] at failed
      cases failed
  · cases decoded : Utf8.decode bytes with
    | error malformed =>
        refine ⟨fun _ text same => ?_, fun _ => ⟨malformed, rfl⟩⟩
        rw [same, Utf8.decode_encode] at decoded
        cases decoded
    | ok text =>
        refine ⟨nofun, fun none => ?_⟩
        exact absurd (Utf8.decode_eq_ok_iff.mp decoded) (none text)
  · rcases load_cases storage path with ⟨error, unreadable⟩ | ⟨members, object⟩ | ⟨_, defaults⟩
    · exact absurd unreadable (readable error)
    · exact absurd object (noObject members)
    · exact defaults

/-- One member names a field and one names nothing. -/
theorem load_takes_switch :
    let text := "\x7b\"tema\": 0, \"verbose\": true\x7d".toList
    let storage := Storage.empty.place "settings.json" (.file (Utf8.encode text))
    NamesPlain storage "settings.json" ∧
      (∃ settings, load storage "settings.json" = .ok (settings, []) ∧ settings.verbose = true) ∧
      ∀ error, ¬ Unreadable storage "settings.json" error := by
  intro text storage
  have clean : '\x00' ∉ (Path.ofString "settings.json").normal.text.toList := by decide +kernel
  have file : storage.fileAt (Path.ofString "settings.json").normal = .ok (Utf8.encode text) := by
    decide +kernel
  obtain ⟨members, object, plain, tested⟩ := exists_holdsObject (Storage.read_of_fileAt clean file)
    (by decide +kernel : (Json.read (Text.unifyLineBreaks text)).toOption.any
      (isObjectWith fun members => arePlain members &&
        ((overlay {} members).1.verbose && (overlay {} members).2.isEmpty)) = true)
  obtain ⟨verbose, silent⟩ := Bool.and_eq_true_iff.mp tested
  obtain ⟨fails, _, _, takes, _⟩ := load_falls_back storage "settings.json" plain
  have loaded := takes members object
  refine ⟨plain, ⟨(overlay {} members).1, ?_, verbose⟩, ?_⟩
  · rw [loaded, ← List.isEmpty_iff.mp silent]
  · intro error unreadable
    have failed := (fails error).mpr unreadable
    rw [loaded] at failed
    cases failed

/-- A folder, and a text that breaks off in a string, at a byte that starts no character. -/
theorem load_fails_on_folder_and_bytes :
    let text := "\x7b\"verbose\": true, \"voice_language\": \"".toList
    let storage := (Storage.empty.place "folder" .folder).place "settings.json"
      (.file (Utf8.encode text ++ [0xFF, 0x22, 0x7D]))
    load storage "folder" = .error (.storage (.refused .isFolder "folder")) ∧
      load storage "settings.json" = .error (.undecodable ⟨37, 1, 0xFF, .invalidStart⟩) := by
  intro text storage
  constructor
  · have clean : '\x00' ∉ (Path.ofString "folder").normal.text.toList := by decide +kernel
    have folder : storage.fileAt (Path.ofString "folder").normal = .error .isFolder := by
      decide +kernel
    have refused : storage.read (Path.ofString "folder").normal =
        .error (.refused .isFolder "folder") := by
      rw [Storage.read, Storage.resolve_clean clean, folder]
      decide +kernel
    exact load_of_refused refused nofun
  · have clean : '\x00' ∉ (Path.ofString "settings.json").normal.text.toList := by decide +kernel
    have file : storage.fileAt (Path.ofString "settings.json").normal =
        .ok (Utf8.encode text ++ [0xFF, 0x22, 0x7D]) := by
      decide +kernel
    exact load_of_undecodable (Storage.read_of_fileAt clean file) (by decide +kernel)

end Settings
end DeskCalculator
