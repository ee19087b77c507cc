import DeskCalculator.Proofs.SettingsFile
import DeskCalculator.Proofs.SettingsLoading

/-! The members of a settings file. Each field is given the last value that the text has for its name,
if it takes that value; a value that it does not take, and any value for an operation, gives one
warning. Neither other names nor the order of the members change what is loaded. -/

namespace DeskCalculator

/-! ### Names that are given more than once -/

namespace Entries

variable {ν α : Type} [DecidableEq ν]

def lastGiven? (name : ν) (pairs : List (ν × α)) : Option α :=
  ((pairs.filter fun pair => pair.1 = name).getLast?).map Prod.snd

theorem lastGiven?_cons_self (name : ν) (value : α) (rest : List (ν × α)) :
    lastGiven? name ((name, value) :: rest) = some ((lastGiven? name rest).getD value) := by
  rw [lastGiven?, lastGiven?, List.filter_cons, if_pos (decide_eq_true rfl), List.getLast?_cons]
  cases (rest.filter fun pair => decide (pair.1 = name)).getLast? <;> rfl

theorem lastGiven?_cons_other {name other : ν} (different : other ≠ name) (value : α)
    (rest : List (ν × α)) : lastGiven? name ((other, value) :: rest) = lastGiven? name rest := by
  rw [lastGiven?, lastGiven?, List.filter_cons, if_neg (by rwa [decide_eq_true_eq])]

theorem lastGiven?_filter {keep : ν × α → Bool} {name : ν}
    (kept : ∀ value, keep (name, value) = true) (pairs : List (ν × α)) :
    lastGiven? name (pairs.filter keep) = lastGiven? name pairs := by
  rw [lastGiven?, lastGiven?, List.filter_filter]
  congr 2
  apply List.filter_congr
  rintro ⟨other, value⟩ _
  by_cases same : other = name
  · rw [same, kept, Bool.and_true]
  · rw [decide_eq_false same, Bool.false_and]

theorem get?_foldl_put (name : ν) (pairs : List (ν × α)) (earlier : Entries ν α) :
    get? name (pairs.foldl (fun entries pair => put pair.1 pair.2 entries) earlier) =
      (lastGiven? name pairs).or (get? name earlier) := by
  induction pairs generalizing earlier with
  | nil => rfl
  | cons pair rest inductionHypothesis =>
      obtain ⟨other, value⟩ := pair
      rw [List.foldl_cons, inductionHypothesis]
      by_cases same : other = name
      · subst same
        rw [get?_put_self, lastGiven?_cons_self]
        cases lastGiven? other rest <;> rfl
      · rw [get?_put_other same, lastGiven?_cons_other same]

theorem get?_ofPairs (name : ν) (pairs : List (ν × α)) :
    get? name (ofPairs pairs) = lastGiven? name pairs :=
  (get?_foldl_put name pairs []).trans (Option.or_none)

theorem mem_names_ofPairs (name : ν) (pairs : List (ν × α)) :
    name ∈ (ofPairs pairs).names ↔ name ∈ names pairs := by
  rw [← get?_isSome_iff, get?_ofPairs, lastGiven?]
  simp [names]

theorem nodup_foldl_put (pairs : List (ν × α)) {earlier : Entries ν α}
    (apart : earlier.names.Nodup) :
    (pairs.foldl (fun entries pair => put pair.1 pair.2 entries) earlier).names.Nodup := by
  induction pairs generalizing earlier with
  | nil => exact apart
  | cons pair rest inductionHypothesis =>
      exact inductionHypothesis (nodup_put apart pair.1 pair.2)

theorem nodup_ofPairs (pairs : List (ν × α)) : (ofPairs pairs).names.Nodup :=
  nodup_foldl_put pairs List.nodup_nil

theorem foldl_put_of_nodup {pairs : List (ν × α)} {earlier : Entries ν α}
    (apart : (names (earlier ++ pairs)).Nodup) :
    pairs.foldl (fun entries pair => put pair.1 pair.2 entries) earlier = earlier ++ pairs := by
  induction pairs generalizing earlier with
  | nil => exact (List.append_nil earlier).symm
  | cons pair rest inductionHypothesis =>
      obtain ⟨name, value⟩ := pair
      have next : earlier ++ (name, value) :: rest = earlier ++ [(name, value)] ++ rest :=
        List.append_cons earlier (name, value) rest
      rw [List.foldl_cons, put_of_nodup apart, next]
      rw [next] at apart
      exact inductionHypothesis apart

theorem ofPairs_of_nodup {pairs : List (ν × α)} (apart : (names pairs).Nodup) :
    ofPairs pairs = pairs :=
  foldl_put_of_nodup apart

theorem mem_iff_get? {entries : Entries ν α} (apart : entries.names.Nodup) (name : ν)
    (value : α) : (name, value) ∈ entries ↔ get? name entries = some value := by
  refine ⟨fun member => ?_, mem_of_get?⟩
  induction entries with
  | nil => cases member
  | cons entry rest inductionHypothesis =>
      obtain ⟨other, held⟩ := entry
      obtain ⟨new, others⟩ := List.nodup_cons.mp apart
      rcases List.mem_cons.mp member with same | inside
      · cases same
        exact if_pos rfl
      · have different : other ≠ name := by
          rintro rfl
          exact new (List.mem_map.mpr ⟨_, inside, rfl⟩)
        rw [get?, if_neg different]
        exact inductionHypothesis others inside

theorem lastGiven?_of_perm {first second : List (ν × α)} (permuted : first.Perm second)
    (apart : (names second).Nodup) (name : ν) :
    lastGiven? name first = lastGiven? name second := by
  have apartToo : (names first).Nodup := (permuted.map Prod.fst).nodup_iff.mpr apart
  rw [← get?_ofPairs, ← get?_ofPairs, ofPairs_of_nodup apart, ofPairs_of_nodup apartToo]
  apply Option.ext
  intro value
  rw [← mem_iff_get? apart, ← mem_iff_get? apartToo]
  exact permuted.mem_iff

end Entries

/-! ### The members as they stand in the text -/

namespace Json

/-- The members of an object in the order of the text, repeated names included. -/
def givenMembers : Nat → List Char → Read (List (CodeText × Json))
  | 0, _ => .error .malformed
  | fuel + 1, source =>
    match readName source with
    | .error error => .error error
    | .ok (name, rest) =>
      match readValue fuel rest with
      | .error error => .error error
      | .ok (value, rest) =>
        match skipSpace rest with
        | '\x7d' :: rest => .ok ([(name, value)], rest)
        | ',' :: rest =>
          (givenMembers fuel (skipSpace rest)).map fun (given, rest) =>
            ((name, value) :: given, rest)
        | _ => .error .malformed

def givenObject (fuel : Nat) (source : List Char) : Read (List (CodeText × Json)) :=
  match skipSpace source with
  | '\x7d' :: rest => .ok ([], rest)
  | inside => givenMembers fuel inside

def given? (source : List Char) : Option (List (CodeText × Json)) :=
  match skipSpace source with
  | '\x7b' :: rest =>
    match givenObject (2 * source.length + 1) rest with
    | .error _ => none
    | .ok (given, after) => if skipSpace after = [] then some given else none
  | _ => none

theorem readMembers_eq (fuel : Nat) (source : List Char) (earlier : Entries CodeText Json) :
    readMembers fuel source earlier = (givenMembers fuel source).map fun (given, rest) =>
      (given.foldl (fun entries pair => entries.put pair.1 pair.2) earlier, rest) := by
  -- Each member read goes into the earlier ones before the next is read.
  induction fuel generalizing source earlier with
  | zero => rfl
  | succ fuel inductionHypothesis =>
      rw [readMembers, givenMembers]
      cases readName source with
      | error error => rfl
      | ok named =>
          obtain ⟨name, afterName⟩ := named
          dsimp only
          cases readValue fuel afterName with
          | error error => rfl
          | ok valued =>
              obtain ⟨value, afterValue⟩ := valued
              dsimp only
              generalize skipSpace afterValue = after
              rcases after with _ | ⟨first, rest⟩
              · rfl
              · by_cases closed : first = '\x7d'
                · subst closed
                  rfl
                · by_cases more : first = ','
                  · subst more
                    change readMembers fuel (skipSpace rest) (earlier.put name value) =
                      ((givenMembers fuel (skipSpace rest)).map _).map _
                    rw [inductionHypothesis]
                    cases givenMembers fuel (skipSpace rest) <;> rfl
                  · simp [closed, more, Except.map]

theorem readValue_object (fuel : Nat) (source : List Char) :
    readValue (fuel + 1) ('\x7b' :: source) = (givenObject fuel source).map fun (given, rest) =>
      (.object (Entries.ofPairs given), rest) := by
  rw [readValue, givenObject]
  generalize skipSpace source = inside
  have members : (readMembers fuel inside []).map (fun read => (object read.1, read.2)) =
      (givenMembers fuel inside).map fun given =>
        (object (Entries.ofPairs given.1), given.2) := by
    rw [readMembers_eq]
    cases givenMembers fuel inside <;> rfl
  rcases inside with _ | ⟨first, rest⟩
  · exact members
  · by_cases closed : first = '\x7d'
    · subst closed
      rfl
    · simpa [closed] using members

theorem start_of_object {fuel : Nat} {source rest : List Char} {members : Entries CodeText Json}
    (read : readValue (fuel + 1) source = .ok (.object members, rest)) :
    ∃ inner, source = '\x7b' :: inner := by
  unfold readValue at read
  split at read
  case h_2 inner => exact ⟨inner, rfl⟩
  case h_3 =>
    split at read
    · cases read
    · obtain ⟨_, _, same⟩ := of_map_ok read
      cases same
  all_goals
    first
    | cases read
    | obtain ⟨_, _, same⟩ := of_map_ok read
      cases same

/-- The text of an object holds what its members give, put one after the other. -/
theorem read_eq_object_iff (source : List Char) (members : Entries CodeText Json) :
    Json.read source = .ok (.object members) ↔
      ∃ given, given? source = some given ∧ members = Entries.ofPairs given := by
  constructor
  · intro read
    unfold Json.read at read
    split at read
    · cases read
    · rename_i value rest found
      split at read
      · rename_i ended
        cases read
        obtain ⟨inner, shape⟩ := start_of_object found
        rw [shape, readValue_object] at found
        obtain ⟨⟨given, after⟩, listed, same⟩ := of_map_ok found
        cases same
        exact ⟨given, by simp only [given?, shape, listed, ended, if_true], rfl⟩
      · cases read
  · rintro ⟨given, found, rfl⟩
    unfold given? at found
    split at found
    · rename_i inner shape
      split at found
      · cases found
      · rename_i others after listed
        split at found
        · rename_i ended
          cases found
          rw [Json.read, shape, readValue_object, listed]
          exact if_pos ended
        · cases found
    · cases found

theorem readValue_overlong {digits rest : List Char} (whole : WholeDigits digits)
    (long : Numeral.digitLimit < digits.length) (ends : EndsNumber rest) (fuel : Nat) :
    readValue (fuel + 1) (digits ++ rest) = .error (.tooLong digits.length) := by
  have row := readNumber_row whole false ends
  obtain ⟨first, others, digit, rfl⟩ := whole.first
  rw [if_pos long] at row
  rw [List.cons_append] at row ⊢
  rw [readValue_digit digit, readSigned_digit digit, row]
  rfl

/-- An object with an overlong number under the name `n`. -/
theorem read_overlong {digits : List Char} (whole : WholeDigits digits)
    (long : Numeral.digitLimit < digits.length) :
    Json.read ('\x7b' :: '"' :: 'n' :: '"' :: ':' :: (digits ++ ['\x7d'])) =
      .error (.tooLong digits.length) := by
  have ends : EndsNumber ['\x7d'] := by
    refine ⟨rfl, ?_⟩
    decide
  obtain ⟨first, others, digit, start⟩ := whole.first
  have visible : skipSpace (digits ++ ['\x7d']) = digits ++ ['\x7d'] :=
    skipSpace_start ⟨first, others, start, isSpace_of_isDigit digit⟩ _
  have name : readName ('"' :: 'n' :: '"' :: ':' :: (digits ++ ['\x7d'])) =
      .ok ("n", digits ++ ['\x7d']) := by
    change Except.ok (_, skipSpace (digits ++ ['\x7d'])) = _
    rw [visible]
    rfl
  have members (fuel : Nat) :
      readMembers (fuel + 2) ('"' :: 'n' :: '"' :: ':' :: (digits ++ ['\x7d'])) [] =
        .error (.tooLong digits.length) := by
    rw [readMembers, name]
    dsimp only
    rw [readValue_overlong whole long ends fuel]
  have value (fuel : Nat) :
      readValue (fuel + 3) ('\x7b' :: '"' :: 'n' :: '"' :: ':' :: (digits ++ ['\x7d'])) =
        .error (.tooLong digits.length) := by
    change (readMembers (fuel + 2) ('"' :: 'n' :: '"' :: ':' :: (digits ++ ['\x7d'])) []).map _ = _
    rw [members]
    rfl
  have opened : skipSpace ('\x7b' :: '"' :: 'n' :: '"' :: ':' :: (digits ++ ['\x7d'])) =
      '\x7b' :: '"' :: 'n' :: '"' :: ':' :: (digits ++ ['\x7d']) := rfl
  rw [Json.read, opened, List.length_cons, Nat.mul_succ, value]

end Json

/-! ### What is taken and what is refused -/

namespace Settings

/-- A value that its field does not take, or a value for an operation. -/
def refused (member : CodeText × Json) : Bool :=
  match Field.named? member.1 with
  | some field => !field.kind.accepts member.2
  | none => Operation.isNamed member.1

theorem refused_iff (name : CodeText) (value : Json) : refused (name, value) = true ↔
    (∃ field : Field, field.name = name ∧ field.kind.accepts value = false) ∨
      ∃ operation : Operation, operation.name = name := by
  have apart (field : Field) (operation : Operation) : operation.name ≠ field.name := by
    cases field <;> cases operation <;> decide
  unfold refused
  cases named : Field.named? name with
  | some field =>
      obtain rfl := Field.name_of_named? named
      simp only [Bool.not_eq_true']
      constructor
      · exact fun other => .inl ⟨field, rfl, other⟩
      · rintro (⟨again, same, other⟩ | ⟨operation, same⟩)
        · rwa [Field.name_injective same] at other
        · exact absurd same (apart field operation)
  | none =>
      have unnamed (field : Field) : field.name ≠ name := by
        rintro rfl
        rw [Field.named?_name] at named
        cases named
      simp only [Operation.isNamed, List.any_eq_true, decide_eq_true_eq]
      constructor
      · exact fun ⟨operation, _, same⟩ => .inr ⟨operation, same⟩
      · rintro (⟨field, same, _⟩ | ⟨operation, same⟩)
        · exact absurd same (unnamed field)
        · exact ⟨operation, by cases operation <;> decide, same⟩

/-- One warning for each refused member, in the order of the members. -/
theorem warnings_overlay (settings : Settings) (members : Entries CodeText Json) :
    (overlay settings members).2 =
      (members.filter refused).map fun member => ⟨member.1, member.2⟩ := by
  induction members generalizing settings with
  | nil => rfl
  | cons member rest inductionHypothesis =>
      obtain ⟨name, value⟩ := member
      rw [overlay, List.filter_cons, refused]
      cases named : Field.named? name with
      | none =>
          simp only
          rw [inductionHypothesis]
          split <;> rfl
      | some field =>
          have accepted := isSome_set? settings field value
          cases done : settings.set? field value with
          | none =>
              rw [done] at accepted
              simp only [← accepted, done]
              rw [inductionHypothesis]
              rfl
          | some changed =>
              rw [done] at accepted
              simp only [← accepted, done]
              rw [inductionHypothesis]
              rfl

/-! ### Loading -/

def ofField (member : CodeText × Json) : Bool :=
  (Field.named? member.1).isSome

/-- What a field holds after loading: the last value that is given for it, if it takes that value. -/
def heldAfter (given : List (CodeText × Json)) (field : Field) : Json :=
  match Entries.lastGiven? field.name given with
  | some value => if field.kind.accepts value then value else ({} : Settings).value field
  | none => ({} : Settings).value field

/-- A path leads to a text that is an object with these members, none of which has a reserved name. -/
def Gives (storage : Storage) (path : Path) (given : List (CodeText × Json)) : Prop :=
  arePlain given = true ∧ ∃ text, storage.read path.normal = .ok (Utf8.encode text) ∧
    Json.given? (Text.unifyLineBreaks text) = some given

theorem load_of_gives {storage : Storage} {path : Path} {given : List (CodeText × Json)}
    (gives : Gives storage path given) :
    load storage path = .ok (overlay {} (Entries.ofPairs given)) := by
  obtain ⟨_, text, found, listed⟩ := gives
  exact load_of_object ⟨text, found, (Json.read_eq_object_iff _ _).mpr ⟨given, listed, rfl⟩⟩

theorem arePlain_ofPairs (given : List (CodeText × Json)) :
    arePlain (Entries.ofPairs given) = arePlain given := by
  have byNames (members : Entries CodeText Json) : arePlain members = true ↔
      ∀ name ∈ members.names, isReserved name = false := by
    simp [arePlain, Entries.names]
  rw [Bool.eq_iff_iff, byNames, byNames]
  simp only [Entries.mem_names_ofPairs]

theorem value_overlay_ofPairs (given : List (CodeText × Json)) (field : Field) :
    (overlay {} (Entries.ofPairs given)).1.value field = heldAfter given field := by
  rw [value_overlay (Entries.nodup_ofPairs given), overlaid, Entries.get?_ofPairs]
  rfl

theorem overlay_ofPairs_congr {first second : List (CodeText × Json)}
    (same : ∀ field : Field,
      Entries.lastGiven? field.name first = Entries.lastGiven? field.name second) :
    (overlay {} (Entries.ofPairs first)).1 = (overlay {} (Entries.ofPairs second)).1 := by
  apply eq_of_value
  intro field
  rw [value_overlay_ofPairs, value_overlay_ofPairs, heldAfter, heldAfter, same]

theorem lastGiven?_ofField (field : Field) (given : List (CodeText × Json)) :
    Entries.lastGiven? field.name (given.filter ofField) =
      Entries.lastGiven? field.name given := by
  apply Entries.lastGiven?_filter
  intro value
  rw [ofField, Field.named?_name]
  rfl

theorem mem_warnings_iff (given : List (CodeText × Json)) (name : CodeText) (value : Json) :
    ⟨name, value⟩ ∈ (overlay {} (Entries.ofPairs given)).2 ↔
      Entries.lastGiven? name given = some value ∧ refused (name, value) = true := by
  rw [warnings_overlay, ← Entries.get?_ofPairs,
    ← Entries.mem_iff_get? (Entries.nodup_ofPairs given), ← List.mem_filter, List.mem_map]
  constructor
  · rintro ⟨⟨other, held⟩, member, same⟩
    cases same
    exact member
  · exact fun member => ⟨(name, value), member, rfl⟩

theorem nodup_warnings (given : List (CodeText × Json)) :
    ((overlay {} (Entries.ofPairs given)).2.map Warning.name).Nodup := by
  rw [warnings_overlay, List.map_map]
  exact (Entries.nodup_ofPairs given).sublist (List.filter_sublist.map Prod.fst)

/-- Each field holds the last value that the text has for its name, if it takes that value, and its
default otherwise. There is one warning for each name of a field or an operation with a value that is
not taken. Members with other names change nothing, and the order of members with different names
changes the order of the warnings only. No member has a reserved name. -/
theorem load_takes_last_values {storage : Storage} {path : Path} {text : List Char}
    {members : Entries CodeText Json}
    (found : storage.read path.normal = .ok (Utf8.encode text))
    (object : Json.read (Text.unifyLineBreaks text) = .ok (.object members))
    (plain : arePlain members = true) :
    ∃ given settings warnings,
      Gives storage path given ∧ Json.given? (Text.unifyLineBreaks text) = some given ∧
      load storage path = .ok (settings, warnings) ∧
      (Record.ofSettings settings).names = (Record.ofSettings {}).names ∧
      (∀ field, settings.value field = heldAfter given field) ∧
      (warnings.map Warning.name).Nodup ∧
      (∀ name value, ⟨name, value⟩ ∈ warnings ↔
        Entries.lastGiven? name given = some value ∧
          ((∃ field : Field, field.name = name ∧ field.kind.accepts value = false) ∨
            ∃ operation : Operation, operation.name = name)) ∧
      ∀ otherStorage otherPath others, Gives otherStorage otherPath others →
        (others.filter ofField = given.filter ofField →
          ∃ otherWarnings, load otherStorage otherPath = .ok (settings, otherWarnings)) ∧
        ((Entries.names given).Nodup → others.Perm given →
          ∃ otherWarnings, load otherStorage otherPath = .ok (settings, otherWarnings) ∧
            otherWarnings.Perm warnings) := by
  obtain ⟨given, listed, rfl⟩ := (Json.read_eq_object_iff _ _).mp object
  have gives : Gives storage path given := ⟨arePlain_ofPairs given ▸ plain, text, found, listed⟩
  refine ⟨given, (overlay {} (Entries.ofPairs given)).1, (overlay {} (Entries.ofPairs given)).2,
    gives, listed, load_of_gives gives, ?_, value_overlay_ofPairs given, nodup_warnings given,
    ?_, ?_⟩
  · rw [Record.names_ofSettings, Record.names_ofSettings]
  · intro name value
    rw [mem_warnings_iff, refused_iff]
  · intro otherStorage otherPath others givesOthers
    rw [load_of_gives givesOthers]
    constructor
    · intro same
      have settings := @overlay_ofPairs_congr others given fun field => by
        rw [← lastGiven?_ofField, same, lastGiven?_ofField]
      exact ⟨_, by rw [← settings]⟩
    · intro apart permuted
      have settings := overlay_ofPairs_congr fun field =>
        Entries.lastGiven?_of_perm permuted apart field.name
      refine ⟨_, by rw [← settings], ?_⟩
      have apartToo : (Entries.names others).Nodup := (permuted.map Prod.fst).nodup_iff.mpr apart
      rw [warnings_overlay, warnings_overlay, Entries.ofPairs_of_nodup apart,
        Entries.ofPairs_of_nodup apartToo]
      exact (permuted.filter refused).map _

theorem load_takes_last_switch :
    let text := "\x7b\"verbose\": 1, \"tema\": 0, \"verbose\": true, \"to_json\": null\x7d".toList
    ∃ storage settings warnings,
      Storage.empty.write "settings.json" (Utf8.encode text) = .ok storage ∧
      load storage "settings.json" = .ok (settings, warnings) ∧
      settings.value .verbose = .bool true ∧ (∃ value, ⟨"to_json", value⟩ ∈ warnings) ∧
      ∀ value, ⟨"tema", value⟩ ∉ warnings ∧ ⟨"verbose", value⟩ ∉ warnings := by
  intro text
  obtain ⟨storage, written, found⟩ := Storage.exists_write
    (by decide +kernel : '\x00' ∉ (Path.ofString "settings.json").text.toList)
    (by decide +kernel : Storage.empty.placeOf "settings.json" =
      .ok ⟨.working 0, ["settings.json"]⟩) (Utf8.encode text)
  obtain ⟨listed, isObject⟩ := Option.isSome_iff_exists.mp
    (by decide +kernel : (Json.given? (Text.unifyLineBreaks text)).isSome = true)
  have plain : (Json.given? (Text.unifyLineBreaks text)).all arePlain = true := by decide +kernel
  rw [isObject, Option.all_some, ← arePlain_ofPairs] at plain
  obtain ⟨given, settings, warnings, _, same, loaded, _, values, _, warned, _⟩ :=
    load_takes_last_values found ((Json.read_eq_object_iff _ _).mpr ⟨listed, isObject, rfl⟩) plain
  have switch : ((Json.given? (Text.unifyLineBreaks text)).bind fun given =>
      (Entries.lastGiven? Field.verbose.name given).bind switch?) = some true := by
    decide +kernel
  have operation : ((Json.given? (Text.unifyLineBreaks text)).bind
      (Entries.lastGiven? Operation.save.name)).isSome = true := by
    decide +kernel
  rw [same, Option.bind_some] at switch operation
  obtain ⟨verbose, last, isTrue⟩ := Option.bind_eq_some_iff.mp switch
  obtain ⟨saving, lastSaving⟩ := Option.isSome_iff_exists.mp operation
  cases switch?_eq_some isTrue
  have silent (name : CodeText) (value : Json) (plain : refused (name, value) = false) :
      ⟨name, value⟩ ∉ warnings := by
    intro member
    have refusedToo := (refused_iff _ _).mpr ((warned _ _).mp member).2
    rw [plain] at refusedToo
    cases refusedToo
  refine ⟨storage, settings, warnings, written, loaded, ?_,
    ⟨saving, (warned _ _).mpr ⟨lastSaving, .inr ⟨.save, rfl⟩⟩⟩, fun value => ⟨?_, ?_⟩⟩
  · rw [values, heldAfter, last]
    rfl
  · exact silent _ _ rfl
  · intro member
    cases last.symm.trans ((warned _ _).mp member).1
    exact silent _ _ rfl member

/-- A whole number of 4301 digits, though under a name that is no field. -/
theorem load_refuses_overlong_number :
    let text := "\x7b\"n\":".toList ++ (List.replicate 4301 '9' ++ ['\x7d'])
    ∃ storage, Storage.empty.write "settings.json" (Utf8.encode text) = .ok storage ∧
      load storage "settings.json" = .error (.overlongNumber 4301) := by
  intro text
  have isDigit : ∀ digit ∈ List.replicate 4301 '9', digit.isDigit = true := by
    intro digit member
    rw [List.eq_of_mem_replicate member]
    rfl
  have whole : WholeDigits (List.replicate 4301 '9') :=
    ⟨isDigit, .inr ⟨'9', List.replicate 4300 '9', List.replicate_succ, by decide⟩⟩
  have plain : Text.unifyLineBreaks text = text := by
    apply Text.unifyLineBreaks_self
    intro member
    rcases List.mem_append.mp member with before | rest
    · revert before
      decide
    · rcases List.mem_append.mp rest with inside | after
      · cases List.eq_of_mem_replicate inside
      · cases List.mem_singleton.mp after
  obtain ⟨storage, written, found⟩ := Storage.exists_write
    (by decide +kernel : '\x00' ∉ (Path.ofString "settings.json").text.toList)
    (by decide +kernel : Storage.empty.placeOf "settings.json" =
      .ok ⟨.working 0, ["settings.json"]⟩) (Utf8.encode text)
  have long : Numeral.digitLimit < (List.replicate 4301 '9').length := by
    rw [List.length_replicate]
    decide
  have read := Json.read_overlong whole long
  rw [List.length_replicate] at read
  refine ⟨storage, written, load_of_unreadable (.overlong found ?_)⟩
  rw [plain]
  exact read

end Settings
end DeskCalculator
