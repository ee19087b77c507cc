import DeskCalculator.Proofs.JsonText
import DeskCalculator.Settings.File

/-! The fields of settings. A field takes the values of its kind and no others, and laying the members of
an object over settings changes the fields that are named there, to values that they take. -/

namespace DeskCalculator.Settings

/-! ### Kinds -/

inductive Kind where
  | switch
  | number
  | whole
  | string
  | keyMap
deriving DecidableEq, Repr

namespace Kind

def isString : Json → Bool
  | .string _ => true
  | _ => false

def accepts : Kind → Json → Bool
  | switch, .bool _ => true
  | number, .number _ => true
  | whole, .number (.whole _) => true
  | string, value => isString value
  | keyMap, .object members => members.all fun member => isString member.2
  | _, _ => false

end Kind

namespace Field

/-- The volume takes both kinds of numbers. -/
def kind : Field → Kind
  | voiceEnabled | verbose | showKeyGuide => .switch
  | voiceVolume => .number
  | voiceRate | maxInputLength | windowWidth | windowHeight | feedbackDuration => .whole
  | voiceLanguage => .string
  | keyMap => .keyMap

theorem named?_name (field : Field) : named? field.name = some field := by
  cases field <;> decide

theorem name_of_named? {name : CodeText} {field : Field} (named : named? name = some field) :
    field.name = name := by
  have same := List.find?_some named
  exact of_decide_eq_true same

theorem name_injective {first second : Field} (same : first.name = second.name) :
    first = second := by
  have named := named?_name first
  rw [same, named?_name second] at named
  exact (Option.some.inj named).symm

end Field

theorem switch?_eq_some {value : Json} {held : Bool} (read : switch? value = some held) :
    value = .bool held := by
  cases value <;> cases read
  rfl

theorem number?_eq_some {value : Json} {held : Number} (read : number? value = some held) :
    value = .number held := by
  cases value <;> cases read
  rfl

theorem whole?_eq_some {value : Json} {held : Int} (read : whole? value = some held) :
    value = .whole held := by
  unfold whole? at read
  split at read <;> cases read
  rfl

theorem string?_eq_some {value : Json} {held : CodeText} (read : string? value = some held) :
    value = .string held := by
  cases value <;> cases read
  rfl

theorem isSome_string? (value : Json) : (string? value).isSome = Kind.isString value := by
  cases value <;> rfl

theorem keyMap?_eq_some {value : Json} {keys : KeyMap} (read : keyMap? value = some keys) :
    value = .object (keys.map fun entry => (entry.1, .string entry.2)) := by
  cases value with
  | object members =>
      refine congrArg Json.object ?_
      change members.mapM _ = some keys at read
      induction members generalizing keys with
      | nil =>
          cases read
          rfl
      | cons member rest inductionHypothesis =>
          obtain ⟨name, content⟩ := member
          simp only [List.mapM_cons, Option.bind_eq_bind, Option.bind_eq_some_iff, Option.pure_def,
            Option.map_eq_some_iff] at read
          obtain ⟨_, ⟨held, text, rfl⟩, others, later, all⟩ := read
          cases all
          rw [string?_eq_some text, inductionHypothesis later]
          rfl
  | _ => cases read

theorem isSome_keyMap? (value : Json) : (keyMap? value).isSome = Kind.keyMap.accepts value := by
  cases value with
  | object members =>
      change Option.isSome (members.mapM fun member => (string? member.2).map (member.1, ·)) =
        members.all fun member => Kind.isString member.2
      induction members with
      | nil => rfl
      | cons member rest inductionHypothesis =>
          rw [List.all_cons, ← inductionHypothesis, ← isSome_string?, List.mapM_cons]
          cases string? member.2 with
          | none => rfl
          | some held =>
              cases (rest.mapM fun member => (string? member.2).map (member.1, ·)) <;> rfl
  | _ => rfl

/-- A field is set to the values that it takes and to no others. -/
theorem isSome_set? (settings : Settings) (field : Field) (value : Json) :
    (settings.set? field value).isSome = field.kind.accepts value := by
  cases field with
  | keyMap => exact Option.isSome_map.trans (isSome_keyMap? value)
  | voiceLanguage => exact Option.isSome_map.trans (isSome_string? value)
  | voiceVolume => exact Option.isSome_map.trans (by cases value <;> rfl)
  | voiceEnabled | verbose | showKeyGuide =>
      exact Option.isSome_map.trans (by cases value <;> rfl)
  | voiceRate | maxInputLength | windowWidth | windowHeight | feedbackDuration =>
      refine Option.isSome_map.trans ?_
      cases value with
      | number value => cases value <;> rfl
      | _ => rfl

/-- A field that is set holds the value, and the others hold what they held. -/
theorem value_of_set? {settings changed : Settings} {field : Field} {value : Json}
    (done : settings.set? field value = some changed) (asked : Field) :
    changed.value asked = if asked = field then value else settings.value asked := by
  cases field with
  | voiceEnabled | verbose | showKeyGuide =>
      obtain ⟨held, read, rfl⟩ := Option.map_eq_some_iff.mp done
      rw [switch?_eq_some read]
      cases asked <;> rfl
  | voiceVolume =>
      obtain ⟨held, read, rfl⟩ := Option.map_eq_some_iff.mp done
      rw [number?_eq_some read]
      cases asked <;> rfl
  | voiceRate | maxInputLength | windowWidth | windowHeight | feedbackDuration =>
      obtain ⟨held, read, rfl⟩ := Option.map_eq_some_iff.mp done
      rw [whole?_eq_some read]
      cases asked <;> rfl
  | voiceLanguage =>
      obtain ⟨held, read, rfl⟩ := Option.map_eq_some_iff.mp done
      rw [string?_eq_some read]
      cases asked <;> rfl
  | keyMap =>
      obtain ⟨held, read, rfl⟩ := Option.map_eq_some_iff.mp done
      rw [keyMap?_eq_some read]
      cases asked <;> rfl

theorem value_getD_set? (settings : Settings) (field : Field) (value : Json) (asked : Field) :
    ((settings.set? field value).getD settings).value asked =
      if asked = field ∧ field.kind.accepts value then value else settings.value asked := by
  have accepted := isSome_set? settings field value
  cases done : settings.set? field value with
  | none =>
      rw [done] at accepted
      rw [if_neg fun both => absurd (accepted.trans both.2) (by decide)]
      rfl
  | some changed =>
      rw [done] at accepted
      simp only [← accepted, Option.isSome_some, and_true]
      exact value_of_set? done asked

theorem accepts_value (settings : Settings) (field : Field) :
    field.kind.accepts (settings.value field) = true := by
  cases field with
  | keyMap =>
      refine List.all_eq_true.mpr ?_
      intro member written
      obtain ⟨entry, _, rfl⟩ := List.mem_map.mp written
      rfl
  | _ => rfl

theorem object_injective {first second : KeyMap}
    (same : Json.object (first.map fun entry => (entry.1, .string entry.2)) =
      .object (second.map fun entry => (entry.1, .string entry.2))) : first = second := by
  refine List.map_injective_iff.mpr ?_ (Json.object.inj same)
  intro one other equal
  have parts := Prod.mk.inj equal
  exact Prod.ext parts.1 (Json.string.inj parts.2)

/-- Settings whose fields hold the same are the same. -/
theorem eq_of_value {first second : Settings}
    (same : ∀ field, first.value field = second.value field) : first = second := by
  have keys := object_injective (same .keyMap)
  have enabled := Json.bool.inj (same .voiceEnabled)
  have volume := Json.number.inj (same .voiceVolume)
  have rate := Number.whole.inj (Json.number.inj (same .voiceRate))
  have language := Json.string.inj (same .voiceLanguage)
  have length := Number.whole.inj (Json.number.inj (same .maxInputLength))
  have verbose := Json.bool.inj (same .verbose)
  have width := Number.whole.inj (Json.number.inj (same .windowWidth))
  have height := Number.whole.inj (Json.number.inj (same .windowHeight))
  have guide := Json.bool.inj (same .showKeyGuide)
  have duration := Number.whole.inj (Json.number.inj (same .feedbackDuration))
  cases first
  cases second
  simp only at keys enabled volume rate language length verbose width height guide duration
  rw [keys, enabled, volume, rate, language, length, verbose, width, height, guide, duration]

/-! ### Members laid over settings -/

def overlaid (settings : Settings) (members : Entries CodeText Json) (field : Field) : Json :=
  match members.get? field.name with
  | some value => if field.kind.accepts value then value else settings.value field
  | none => settings.value field

theorem overlaid_absent {members : Entries CodeText Json} {field : Field}
    (absent : field.name ∉ members.names) (settings : Settings) :
    overlaid settings members field = settings.value field := by
  have missing : members.get? field.name = none := by
    rw [← Option.not_isSome_iff_eq_none, Entries.get?_isSome_iff]
    exact absent
  rw [overlaid, missing]

theorem overlaid_first (settings : Settings) (field : Field) (value : Json)
    (rest : Entries CodeText Json) :
    overlaid settings ((field.name, value) :: rest) field =
      if field.kind.accepts value then value else settings.value field := by
  rw [overlaid, Entries.get?, if_pos rfl]

theorem overlaid_other {name : CodeText} {field : Field} (different : name ≠ field.name)
    (settings : Settings) (value : Json) (rest : Entries CodeText Json) :
    overlaid settings ((name, value) :: rest) field = overlaid settings rest field := by
  rw [overlaid, Entries.get?, if_neg different]
  rfl

theorem overlay_named (settings : Settings) (field : Field) (value : Json)
    (rest : Entries CodeText Json) :
    (overlay settings ((field.name, value) :: rest)).1 =
      (overlay ((settings.set? field value).getD settings) rest).1 := by
  rw [overlay, Field.named?_name]
  cases done : settings.set? field value with
  | none =>
      simp only [done]
      rfl
  | some changed =>
      simp only [done]
      rfl

theorem overlay_unnamed {name : CodeText} (unnamed : Field.named? name = none)
    (settings : Settings) (value : Json) (rest : Entries CodeText Json) :
    (overlay settings ((name, value) :: rest)).1 = (overlay settings rest).1 := by
  rw [overlay, unnamed]

theorem value_overlay {members : Entries CodeText Json} (apart : members.names.Nodup)
    (settings : Settings) (asked : Field) :
    (overlay settings members).1.value asked = overlaid settings members asked := by
  -- A member that is taken changes the settings for all members after it, so they are general.
  induction members generalizing settings with
  | nil => rfl
  | cons member rest inductionHypothesis =>
      obtain ⟨name, value⟩ := member
      obtain ⟨new, others⟩ := List.nodup_cons.mp apart
      cases named : Field.named? name with
      | none =>
          have different : name ≠ asked.name := by
            rintro rfl
            rw [Field.named?_name] at named
            cases named
          rw [overlay_unnamed named, inductionHypothesis others, overlaid_other different]
      | some field =>
          obtain rfl := Field.name_of_named? named
          rw [overlay_named, inductionHypothesis others]
          by_cases same : field = asked
          · subst same
            rw [overlaid_first, overlaid_absent new, value_getD_set?]
            simp only [true_and]
          · have different : field.name ≠ asked.name := fun equal =>
              same (Field.name_injective equal)
            rw [overlaid_other different, overlaid, overlaid, value_getD_set?,
              if_neg fun both => same both.1.symm]

end DeskCalculator.Settings
