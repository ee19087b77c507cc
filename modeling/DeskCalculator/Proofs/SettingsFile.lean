import DeskCalculator.Proofs.SettingsFields
import DeskCalculator.Proofs.StoredFile

/-! Settings that are saved and loaded. A record that was saved is loaded with the fields in their order;
a field holds what it held in the record if it takes that, and else the default. Loaded settings that
are saved are loaded again as they were. -/

namespace DeskCalculator

namespace Settings

open Json

theorem distinct_value {settings : Settings} (apart : settings.keyMap.names.Nodup) (field : Field) :
    (settings.value field).Distinct := by
  cases field with
  | voiceEnabled | verbose | showKeyGuide => exact .bool _
  | voiceVolume => exact .number _
  | voiceRate | maxInputLength | windowWidth | windowHeight | feedbackDuration => exact .number _
  | voiceLanguage => exact .string _
  | keyMap =>
      refine .object ?_ ?_
      · rw [Entries.names, List.map_map]
        exact apart
      · intro member written
        obtain ⟨entry, _, rfl⟩ := List.mem_map.mp written
        exact .string _

theorem distinct_default (field : Field) : (value {} field).Distinct :=
  distinct_value (by decide +kernel) field

theorem distinct_overlay {settings : Settings} {members : Entries CodeText Json}
    (distinct : (Json.object members).Distinct)
    (inside : ∀ field, (settings.value field).Distinct) (field : Field) :
    ((overlay settings members).1.value field).Distinct := by
  rw [value_overlay distinct.names_nodup, overlaid]
  split
  · rename_i value held
    split
    · exact distinct.member (Entries.mem_of_get? held)
    · exact inside field
  · exact inside field

end Settings

namespace Record

open Settings (Field)

theorem names_ofSettings (settings : Settings) :
    (ofSettings settings).names = Field.all.map Field.name := by
  rw [ofSettings, Entries.names, List.map_map]
  rfl

theorem get?_map_name {fields : List Field} {field : Field} (member : field ∈ fields)
    (value : Field → Json) :
    Entries.get? field.name (fields.map fun field => (field.name, value field)) =
      some (value field) := by
  induction fields with
  | nil => cases member
  | cons first rest inductionHypothesis =>
      rw [List.map_cons, Entries.get?]
      by_cases same : first = field
      · rw [same, if_pos rfl]
      · rw [if_neg fun equal => same (Field.name_injective equal)]
        exact inductionHypothesis ((List.mem_cons.mp member).resolve_left (Ne.symm same))

theorem get?_ofSettings (settings : Settings) (field : Field) :
    (ofSettings settings).get? field.name = some (settings.value field) :=
  get?_map_name (Field.mem_all field) settings.value

/-! ### Changes -/

inductive Change where
  | put (name : CodeText) (value : Json)
  | putKey (key : CodeText) (value : Json)

def Change.value : Change → Json
  | put _ value => value
  | putKey _ value => value

/-- A key that finds no key map leaves the record as it is. -/
def change (record : Record) : Change → Record
  | .put name value => record.put name value
  | .putKey key value =>
    match record.putKey key value with
    | .ok changed => changed
    | .error _ => record

def changed (changes : List Change) : Record :=
  changes.foldl change (ofSettings {})

/-! ### What holds of a record after any changes -/

structure Complete (record : Record) : Prop where
  distinct : (Json.object record).Distinct
  present : ∀ field : Field, ∃ value, record.get? field.name = some value

theorem complete_ofSettings {settings : Settings}
    (inside : ∀ field, (settings.value field).Distinct) : (ofSettings settings).Complete := by
  constructor
  · refine .object ?_ ?_
    · rw [names_ofSettings]
      exact List.Nodup.map (fun _ _ same => Field.name_injective same) (by decide)
    · intro member written
      obtain ⟨field, _, rfl⟩ := List.mem_map.mp written
      exact inside field
  · intro field
    exact ⟨_, get?_ofSettings settings field⟩

theorem Complete.put {record : Record} (complete : record.Complete) {value : Json}
    (new : value.Distinct) (name : CodeText) : Complete (Entries.put name value record) := by
  constructor
  · exact complete.distinct.object_put new name
  · intro field
    by_cases same : name = field.name
    · rw [same]
      exact ⟨value, Entries.get?_put_self field.name value record⟩
    · rw [Entries.get?_put_other same]
      exact complete.present field

theorem of_keyMap {record : Record} {keys : Entries CodeText Json}
    (found : record.keyMap = .ok keys) : record.get? Field.keyMap.name = some (.object keys) := by
  unfold keyMap at found
  split at found
  · rename_i members held
    cases found
    exact held
  · cases found
  · cases found

theorem Complete.change {record : Record} (complete : record.Complete) {change : Change}
    (new : change.value.Distinct) : (record.change change).Complete := by
  cases change with
  | put name value => exact complete.put new name
  | putKey key value =>
      unfold Record.change putKey
      cases found : record.keyMap with
      | error fault => exact complete
      | ok keys =>
          have held := Entries.mem_of_get? (of_keyMap found)
          have distinct := complete.distinct.member held
          exact complete.put (distinct.object_put new key) Field.keyMap.name

theorem Complete.foldl {record : Record} (complete : record.Complete) {changes : List Change}
    (new : ∀ change ∈ changes, change.value.Distinct) :
    (changes.foldl Record.change record).Complete := by
  induction changes generalizing record with
  | nil => exact complete
  | cons change rest inductionHypothesis =>
      have next := complete.change (new change List.mem_cons_self)
      rw [List.foldl_cons]
      refine inductionHypothesis next ?_
      exact fun other member => new other (List.mem_cons_of_mem _ member)

theorem complete_changed {changes : List Change}
    (new : ∀ change ∈ changes, change.value.Distinct) : (changed changes).Complete :=
  (complete_ofSettings Settings.distinct_default).foldl new

/-! ### Saving and loading -/

theorem of_encode {record : Record} {bytes : List UInt8} (encoded : record.encode = (bytes, none)) :
    Json.encode (.object record) = (bytes, none) := by
  unfold encode at encoded
  split at encoded
  · cases encoded
  · cases done : Json.encode (.object record) with
    | mk written fault =>
        rw [done] at encoded
        cases fault with
        | some fault => cases encoded
        | none =>
            cases encoded
            rfl

theorem of_save {record : Record} {storage : Storage} {path : Path}
    (saved : (record.save storage path).answer = .ok true) :
    ∃ bytes, Json.encode (.object record) = (bytes, none) ∧
      storage.write path bytes = .ok (record.save storage path).storage := by
  unfold save at saved ⊢
  split at saved
  · cases saved
  · cases encoded : record.encode with
    | mk bytes fault =>
        simp only [encoded] at saved ⊢
        split at saved
        · cases saved
        · cases saved
        · rename_i written stored
          cases fault with
          | some fault => cases saved
          | none => exact ⟨bytes, of_encode encoded, stored⟩

theorem hidden?_eq_none {operation : Settings.Operation} {record : Record}
    (absent : operation.name ∉ record.names) : record.hidden? operation = none := by
  rw [hidden?, ← Option.not_isSome_iff_eq_none, Entries.get?_isSome_iff]
  exact absent

/-- A record is saved if it hides neither operation, can be written, and has a place. -/
theorem save_answer {record : Record} {storage : Storage} {path : Path} {location : Location}
    (shown : Settings.Operation.save.name ∉ record.names)
    (listed : Settings.Operation.list.name ∉ record.names)
    (encoded : (Json.encode (.object record)).2 = none)
    (clean : '\x00' ∉ path.text.toList) (placed : storage.placeOf path = .ok location) :
    (record.save storage path).answer = .ok true := by
  cases written : Json.encode (.object record) with
  | mk bytes fault =>
      rw [written] at encoded
      cases encoded
      simp only [save, encode, hidden?_eq_none shown, hidden?_eq_none listed, written,
        Storage.write, Storage.resolve_clean clean, placed, Except.map, Except.mapError,
        Option.map_none]

theorem Complete.load {record : Record} (complete : record.Complete) {storage : Storage}
    {text : String} (saved : (record.save storage (Path.ofString text)).answer = .ok true) :
    ∃ loaded warnings,
      Settings.load (record.save storage (Path.ofString text)).storage (Path.ofString text) =
        .ok (loaded, warnings) ∧
      ∀ field value, record.get? field.name = some value →
        loaded.value field =
          if field.kind.accepts value then value else Settings.value {} field := by
  obtain ⟨bytes, encoded, written⟩ := of_save saved
  obtain ⟨characters, decoded, read⟩ := Json.ofFile_encode complete.distinct encoded
  have found := Storage.read_normal_of_write written
  refine ⟨(Settings.overlay {} record).1, (Settings.overlay {} record).2, ?_, ?_⟩
  · simp only [Settings.load, found, Settings.ofBytes, decoded, Settings.ofText, read]
  · intro field value held
    rw [Settings.value_overlay complete.distinct.names_nodup, Settings.overlaid, held]

theorem distinct_of_load {storage : Storage} {path : Path} {loaded : Settings}
    {warnings : List Settings.Warning}
    (done : Settings.load storage path = .ok (loaded, warnings)) (field : Field) :
    (loaded.value field).Distinct := by
  have default := Settings.distinct_default field
  unfold Settings.load at done
  split at done
  · cases done
    exact default
  · cases done
  · unfold Settings.ofBytes at done
    split at done
    · cases done
    · unfold Settings.ofText at done
      split at done
      · cases done
        exact default
      · cases done
      · rename_i members read
        have result : (Settings.overlay {} members).1 = loaded :=
          congrArg Prod.fst (Except.ok.inj done)
        rw [← result]
        have distinct := Json.distinct_of_whole read
        exact Settings.distinct_overlay distinct Settings.distinct_default field
      · cases done
        exact default

/-- A saved record is loaded with all fields in their order: a field holds what it held in the record,
or the default where it does not take that. Loaded settings that are saved are loaded again. -/
theorem load_of_save :
    (∀ changes : List Change, (∀ change ∈ changes, change.value.Distinct) →
      ∀ (storage : Storage) (path : String),
        ((changed changes).save storage path).answer = .ok true →
        ∃ loaded warnings,
          Settings.load ((changed changes).save storage path).storage path =
            .ok (loaded, warnings) ∧
          (ofSettings loaded).names = (ofSettings {}).names ∧
          ∀ field : Field, ∃ value, (changed changes).get? field.name = some value ∧
            loaded.value field =
              if field.kind.accepts value then value else Settings.value {} field) ∧
    (∀ (before : Storage) (source : Path) (first : Settings) (warnings : List Settings.Warning),
      Settings.load before source = .ok (first, warnings) →
      ∀ (storage : Storage) (path : String),
        ((ofSettings first).save storage path).answer = .ok true →
        ∃ again, Settings.load ((ofSettings first).save storage path).storage path =
          .ok (first, again)) := by
  constructor
  · intro changes new storage path saved
    have complete := complete_changed new
    obtain ⟨loaded, warnings, read, held⟩ := complete.load saved
    refine ⟨loaded, warnings, read, ?_, ?_⟩
    · rw [names_ofSettings, names_ofSettings]
    · intro field
      obtain ⟨value, present⟩ := complete.present field
      exact ⟨value, present, held field value present⟩
  · intro before source first warnings done storage path saved
    have complete := complete_ofSettings (distinct_of_load done)
    obtain ⟨loaded, again, read, held⟩ := complete.load saved
    -- Loaded settings hold only what their fields take, so no field falls back to its default.
    have same : loaded = first := by
      apply Settings.eq_of_value
      intro field
      rw [held field _ (get?_ofSettings first field), if_pos (Settings.accepts_value first field)]
    rw [same] at read
    exact ⟨again, read⟩

def sampleChanges : List Change :=
  [.put "voice_volume" (.whole 1), .put "verbose" (.whole 1), .putKey "é" (.string "\"\n"),
    .put "tema" (.list [.null])]

def sampleKeys : KeyMap :=
  Entries.put (CodeText.ofString "é") (CodeText.ofString "\"\n") KeyMap.standard

theorem distinct_sampleChanges : ∀ change ∈ sampleChanges, change.value.Distinct := by
  intro change member
  simp only [sampleChanges, List.mem_cons, List.not_mem_nil, or_false] at member
  rcases member with rfl | rfl | rfl | rfl
  · exact .number _
  · exact .number _
  · exact .string _
  · refine .list ?_
    intro item inside
    cases List.mem_singleton.mp inside
    exact .null

set_option maxRecDepth 4000 in
theorem sampleChanges_and_defaults_load :
    (∃ loaded warnings,
      Settings.load ((changed sampleChanges).save Storage.empty "config.json").storage
        "config.json" = .ok (loaded, warnings) ∧
      loaded.value .voiceVolume = .whole 1 ∧ loaded.value .verbose = .bool false ∧
      loaded.keyMap = sampleKeys) ∧
    ∃ again, Settings.load ((ofSettings {}).save Storage.empty "config.json").storage
      "config.json" = .ok ({}, again) := by
  have placed : Storage.empty.placeOf "config.json" = .ok ⟨.working 0, ["config.json"]⟩ := by
    decide +kernel
  constructor
  · have saved : ((changed sampleChanges).save Storage.empty "config.json").answer = .ok true :=
      save_answer (by decide +kernel) (by decide +kernel) (by decide +kernel) (by decide) placed
    obtain ⟨loaded, warnings, done, _, held⟩ :=
      load_of_save.1 sampleChanges distinct_sampleChanges Storage.empty "config.json" saved
    have volume : (changed sampleChanges).get? Field.voiceVolume.name = some (.whole 1) := rfl
    have verbose : (changed sampleChanges).get? Field.verbose.name = some (.whole 1) := rfl
    have keys : (changed sampleChanges).get? Field.keyMap.name =
        some (.object (sampleKeys.map fun entry => (entry.1, .string entry.2))) := rfl
    refine ⟨loaded, warnings, done, ?_, ?_, ?_⟩
    · obtain ⟨value, found, taken⟩ := held .voiceVolume
      cases found.symm.trans volume
      exact taken
    · obtain ⟨value, found, taken⟩ := held .verbose
      cases found.symm.trans verbose
      exact taken
    · obtain ⟨value, found, taken⟩ := held .keyMap
      cases found.symm.trans keys
      exact Settings.object_injective taken
  · have missing : Storage.empty.fileAt (Path.ofString "config.json").normal =
        .error .missing := by
      decide +kernel
    have clean : '\x00' ∉ (Path.ofString "config.json").normal.text.toList := by decide +kernel
    have loaded : Settings.load Storage.empty "config.json" = .ok ({}, []) := by
      rw [Settings.load, Storage.read, Storage.resolve_clean clean, missing]
      rfl
    have saved : ((ofSettings {}).save Storage.empty "config.json").answer = .ok true :=
      save_answer (by decide +kernel) (by decide +kernel) (by decide +kernel) (by decide) placed
    exact load_of_save.2 Storage.empty "config.json" {} [] loaded Storage.empty "config.json" saved

end Record
end DeskCalculator
