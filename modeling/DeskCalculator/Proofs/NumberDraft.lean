import DeskCalculator.Proofs.EntryLimit
import DeskCalculator.Proofs.KeypadRuns
import DeskCalculator.Proofs.NumberText
import DeskCalculator.Proofs.Rounding

/-! Numbers while they are typed. What the keys of the keypad can leave in the entry is a draft: a sign
or none, digits or none, and a point with digits or none after it, or no point. A draft with a digit is
read as the double closest to the number that it denotes, unless that is too large; one without a digit
is no number. -/

namespace DeskCalculator

/-! ### Numerals without blanks and letters -/

namespace Numeral

theorem trim_of_not_blank {text : List Char}
    (plain : ∀ character ∈ text, Text.isBlank character = false) : Text.trim text = text := by
  have kept {text : List Char} (plain : ∀ character ∈ text, Text.isBlank character = false) :
      Text.trimStart text = text := by
    cases text with
    | nil => rfl
    | cons first rest =>
        apply List.dropWhile_cons_of_neg
        rw [plain first List.mem_cons_self]
        decide
  rw [Text.trim, kept plain, kept, List.reverse_reverse]
  intro character member
  exact plain character (List.mem_reverse.mp member)

theorem withoutUnderscores?_of_not_mem {text : List Char} (plain : '_' ∉ text) :
    withoutUnderscores? text = some text := by
  induction text with
  | nil => rfl
  | cons first rest inductionHypothesis =>
      have firstPlain : first ≠ '_' := fun same => plain (same ▸ List.mem_cons_self)
      have restPlain : '_' ∉ rest := fun member => plain (List.mem_cons_of_mem _ member)
      rw [withoutUnderscores?, inductionHypothesis restPlain]
      · rfl
      · exact firstPlain
      · rintro next others rfl
        exact restPlain List.mem_cons_self

theorem toLower_of_isDigit {character : Char} (digit : character.isDigit = true) :
    character.toLower = character := by
  have bounds := Text.toNat_of_isDigit digit
  apply Char.toLower_eq_of_not_isUpper
  intro upper
  simp only [Char.isUpper, ge_iff_le, decide_eq_true_eq, UInt32.le_iff_toNat_le] at upper
  exact absurd (Nat.le_trans upper.1 bounds.2) (by decide)

theorem mem_of_mem_splitSign {text : List Char} {character : Char}
    (member : character ∈ (splitSign text).2) : character ∈ text := by
  unfold splitSign at member
  split at member
  · exact List.mem_cons_of_mem _ member
  · exact List.mem_cons_of_mem _ member
  · exact member

section
variable {text : List Char}
  (plain : ∀ character ∈ text, character.isDigit = true ∨ character ∈ ['-', '+', '.', 'e'])
include plain

theorem bare?_of_plain : bare? text = some text := by
  have marks : ∀ mark ∈ ['-', '+', '.', 'e'],
      Text.isBlank mark = false ∧ Text.westernDigit mark = mark := by
    intro mark member
    fin_cases member <;> decide
  have blankless : ∀ character ∈ text, Text.isBlank character = false := by
    intro character member
    rcases plain character member with digit | mark
    · exact Text.isBlank_of_isDigit digit
    · exact (marks character mark).1
  have western : text.map Text.westernDigit = text := by
    rw [List.map_congr_left (g := id), List.map_id]
    intro character member
    rcases plain character member with digit | mark
    · exact Text.westernDigit_of_isDigit digit
    · exact (marks character mark).2
  have single : '_' ∉ text := by
    intro member
    rcases plain '_' member with digit | mark
    · cases digit
    · revert mark
      decide
  rw [bare?, trim_of_not_blank blankless, western, withoutUnderscores?_of_not_mem single]

/-- The texts of the infinities and of the undefined value have an `n`. -/
theorem lower_ne_of_plain {word : String} (letter : 'n' ∈ word.toList) :
    String.ofList (text.map Char.toLower) ≠ word := by
  rintro rfl
  rw [String.toList_ofList] at letter
  obtain ⟨character, member, lower⟩ := List.mem_map.mp letter
  have marks : ∀ mark ∈ ['-', '+', '.', 'e'], mark.toLower ≠ 'n' := by
    intro mark member
    fin_cases member <;> decide
  rcases plain character member with digit | mark
  · rw [toLower_of_isDigit digit] at lower
    rw [lower] at digit
    cases digit
  · exact marks character mark lower

theorem reading?_of_plain : reading? text =
    (unsigned? (splitSign text).2).map fun (coefficient, exponent) =>
      .decimal ⟨(splitSign text).1, coefficient, exponent⟩ := by
  have bodyPlain : ∀ character ∈ (splitSign text).2,
      character.isDigit = true ∨ character ∈ ['-', '+', '.', 'e'] :=
    fun character member => plain character (mem_of_mem_splitSign member)
  simp only [reading?, bare?_of_plain plain]
  split
  · rename_i same
    exact absurd same (lower_ne_of_plain bodyPlain (by decide))
  · rename_i same
    exact absurd same (lower_ne_of_plain bodyPlain (by decide))
  · rename_i same
    exact absurd same (lower_ne_of_plain bodyPlain (by decide))
  · rfl

end

end Numeral

/-- `fraction` holds the digits after the point, if there is a point. -/
structure Draft where
  negative : Bool
  whole : List Char
  fraction : Option (List Char)
  wholeDigits : ∀ digit ∈ whole, digit.isDigit = true
  fractionDigits : ∀ digit ∈ fraction.getD [], digit.isDigit = true

namespace Draft

def pointText : Option (List Char) → List Char
  | none => []
  | some digits => '.' :: digits

def unsigned (draft : Draft) : List Char :=
  draft.whole ++ pointText draft.fraction

def text (draft : Draft) : List Char :=
  if draft.negative then '-' :: draft.unsigned else draft.unsigned

def places (draft : Draft) : List Char :=
  draft.fraction.getD []

/-- The number that a draft denotes; missing digits count as zeros. -/
def number (draft : Draft) : ℚ :=
  Binary64.signed draft.negative
    (Decimal.ofDigits draft.whole + Decimal.ofDigits draft.places / 10 ^ draft.places.length)

variable (draft : Draft)

theorem isDigit_or_point {character : Char} (member : character ∈ draft.unsigned) :
    character.isDigit = true ∨ character = '.' := by
  rcases List.mem_append.mp member with whole | point
  · exact .inl (draft.wholeDigits character whole)
  · have digits := draft.fractionDigits
    cases fraction : draft.fraction with
    | none =>
        rw [fraction] at point
        cases point
    | some places =>
        rw [fraction] at point digits
        rcases List.mem_cons.mp point with same | digit
        · exact .inr same
        · exact .inl (digits character digit)

theorem isDigit_or_mark {character : Char} (member : character ∈ draft.text) :
    character.isDigit = true ∨ character = '.' ∨ character = '-' := by
  unfold text at member
  split at member
  · rcases List.mem_cons.mp member with sign | rest
    · exact .inr (.inr sign)
    · exact (draft.isDigit_or_point rest).imp_right .inl
  · exact (draft.isDigit_or_point member).imp_right .inl

theorem no_digit_iff :
    (∀ character ∈ draft.text, character.isDigit = false) ↔ draft.whole ++ draft.places = [] := by
  constructor
  · intro none
    apply List.eq_nil_iff_forall_not_mem.mpr
    intro digit member
    have inText : digit ∈ draft.unsigned := by
      rcases List.mem_append.mp member with whole | place
      · exact List.mem_append_left _ whole
      · apply List.mem_append_right
        cases fraction : draft.fraction with
        | none =>
            rw [places, fraction] at place
            cases place
        | some digits =>
            rw [places, fraction] at place
            exact List.mem_cons_of_mem _ place
    have isDigit : digit.isDigit = true := by
      rcases List.mem_append.mp member with whole | place
      · exact draft.wholeDigits digit whole
      · exact draft.fractionDigits digit place
    have contained : digit ∈ draft.text := by
      unfold text
      split
      · exact List.mem_cons_of_mem _ inText
      · exact inText
    rw [none digit contained] at isDigit
    cases isDigit
  · intro empty character member
    obtain ⟨noWhole, noPlaces⟩ := List.append_eq_nil_iff.mp empty
    rw [text, unsigned, noWhole, List.nil_append] at member
    rw [places] at noPlaces
    cases fraction : draft.fraction with
    | none =>
        rw [fraction] at member
        split at member
        · rcases List.mem_cons.mp member with rfl | impossible
          · rfl
          · cases impossible
        · cases member
    | some digits =>
        rw [fraction, Option.getD_some] at noPlaces
        rw [fraction, noPlaces] at member
        split at member
        · rcases List.mem_cons.mp member with rfl | point
          · rfl
          · cases List.mem_singleton.mp point
            rfl
        · cases List.mem_singleton.mp member
          rfl

/-! ### Keys -/

theorem exists_typed {digit : Char} (isDigit : digit.isDigit = true) :
    ∃ next : Draft, next.text = draft.text ++ [digit] := by
  obtain ⟨negative, whole, fraction, wholeDigits, fractionDigits⟩ := draft
  have grown {digits : List Char} (old : ∀ digit ∈ digits, digit.isDigit = true) :
      ∀ other ∈ digits ++ [digit], other.isDigit = true := by
    intro other member
    rcases List.mem_append.mp member with earlier | last
    · exact old other earlier
    · exact List.mem_singleton.mp last ▸ isDigit
  cases fraction with
  | none =>
      refine ⟨⟨negative, whole ++ [digit], none, grown wholeDigits, fractionDigits⟩, ?_⟩
      cases negative <;> simp [text, unsigned, pointText]
  | some digits =>
      refine ⟨⟨negative, whole, some (digits ++ [digit]), wholeDigits, grown fractionDigits⟩, ?_⟩
      cases negative <;> simp [text, unsigned, pointText]

theorem exists_pointed (pointless : '.' ∉ draft.text) :
    ∃ next : Draft, next.text = draft.text ++ ['.'] := by
  obtain ⟨negative, whole, fraction, wholeDigits, fractionDigits⟩ := draft
  cases fraction with
  | none =>
      refine ⟨⟨negative, whole, some [], wholeDigits, fractionDigits⟩, ?_⟩
      cases negative <;> simp [text, unsigned, pointText]
  | some digits =>
      refine absurd ?_ pointless
      cases negative <;> simp [text, unsigned, pointText]

def flipped : Draft :=
  { draft with negative := !draft.negative }

theorem text_flipped : draft.flipped.text = Session.toggled draft.text := by
  cases negative : draft.negative with
  | true =>
      rw [text, flipped, negative, text, if_pos negative]
      rfl
  | false =>
      have plain : draft.text = draft.unsigned := by
        rw [text, negative]
        rfl
      rw [plain, Session.toggled_of_keys fun _ member => draft.isDigit_or_point member, text,
        flipped, negative]
      rfl

theorem flipped_flipped : draft.flipped.flipped = draft := by
  rw [flipped, flipped]
  simp only [Bool.not_not]

/-! ### Reading a draft -/

/-- Among the characters of a numeral. -/
theorem hasMark {character : Char} (member : character ∈ draft.text) :
    character.isDigit = true ∨ character ∈ ['-', '+', '.', 'e'] := by
  rcases draft.isDigit_or_mark member with digit | rfl | rfl
  · exact .inl digit
  · exact .inr (by decide)
  · exact .inr (by decide)

theorem splitSign_text : Numeral.splitSign draft.text = (draft.negative, draft.unsigned) := by
  cases negative : draft.negative with
  | true =>
      rw [text, if_pos negative]
      rfl
  | false =>
      rw [text, negative, if_neg Bool.false_ne_true]
      have keys : ∀ character ∈ draft.unsigned, character.isDigit = true ∨ character = '.' :=
        fun _ member => draft.isDigit_or_point member
      generalize draft.unsigned = unsigned at keys
      unfold Numeral.splitSign
      split
      · rcases keys '-' List.mem_cons_self with digit | point
        · cases digit
        · cases point
      · rcases keys '+' List.mem_cons_self with digit | point
        · cases digit
        · cases point
      · rfl

theorem endsDigits_pointText (fraction : Option (List Char)) :
    EndsDigits (pointText fraction) := by
  cases fraction with
  | none => trivial
  | some digits => rfl

def decimal : Decimal :=
  ⟨draft.negative, Decimal.ofDigits (draft.whole ++ draft.places), -(draft.places.length : Int)⟩

theorem unsigned?_unsigned : Numeral.unsigned? draft.unsigned =
    if draft.whole ++ draft.places = [] then none
    else some (draft.decimal.coefficient, draft.decimal.exponent) := by
  have split := splitDigits_append draft.wholeDigits (endsDigits_pointText draft.fraction)
  have digits := draft.fractionDigits
  rw [Numeral.unsigned?, unsigned, split]
  cases fraction : draft.fraction with
  | none =>
      simp only [pointText, decimal, places, fraction]
      rfl
  | some places =>
      rw [fraction, Option.getD_some] at digits
      have rest : Numeral.splitDigits (places ++ []) = (places, []) :=
        splitDigits_append digits trivial
      rw [List.append_nil] at rest
      simp only [pointText, decimal, Draft.places, fraction, rest, Option.getD_some,
        Numeral.exponent?, Option.map_some, zero_sub]

theorem reading?_text : Numeral.reading? draft.text =
    if draft.whole ++ draft.places = [] then none else some (.decimal draft.decimal) := by
  rw [Numeral.reading?_of_plain fun _ member => draft.hasMark member, draft.splitSign_text,
    draft.unsigned?_unsigned]
  split <;> rfl

/-! ### The value of a draft -/

theorem number_eq : draft.number = Binary64.signed draft.negative
    ((draft.decimal.coefficient : Nat) / ((10 ^ draft.places.length : Nat) : ℚ)) := by
  have joined : draft.decimal.coefficient =
      10 ^ draft.places.length * Decimal.ofDigits draft.whole + Decimal.ofDigits draft.places := by
    rw [decimal, Decimal.ofDigits, Nat.ofDigitChars_append, Nat.ofDigitChars_eq_ofDigitChars_zero]
    rfl
  have scale : ((10 : ℚ) ^ draft.places.length) ≠ 0 := pow_ne_zero _ (by norm_num)
  rw [number, joined]
  push_cast
  rw [add_div, mul_div_cancel_left₀ _ scale]

theorem abs_number : |draft.number| =
    (draft.decimal.coefficient : Nat) / ((10 ^ draft.places.length : Nat) : ℚ) := by
  have size : (0 : ℚ) ≤ (draft.decimal.coefficient : Nat) / ((10 ^ draft.places.length : Nat) : ℚ) :=
    div_nonneg (Nat.cast_nonneg _) (Nat.cast_nonneg _)
  rw [number_eq]
  generalize ((draft.decimal.coefficient : Nat) : ℚ) / _ = quotient at size ⊢
  cases draft.negative with
  | false => exact abs_of_nonneg size
  | true => exact (abs_neg quotient).trans (abs_of_nonneg size)

def magnitude : Nat :=
  Binary64.nearest draft.decimal.coefficient (10 ^ draft.places.length)

theorem finite?_text : Numeral.finite? draft.text =
    if draft.whole ++ draft.places = [] then none
    else if draft.magnitude < Binary64.infinity then
      some (Binary64.toFloat draft.negative draft.magnitude)
    else none := by
  rw [Numeral.finite?, Numeral.real?, reading?_text]
  split
  · rfl
  · have rounded : Binary64.ofDecimal draft.decimal = draft.magnitude :=
      Binary64.ofDecimal_places _ _ _
    have bounded : draft.magnitude ≤ Binary64.infinity := by
      rw [magnitude, Binary64.nearest_eq_min]
      exact min_le_right _ _
    rw [Option.map_some, Numeral.Reading.toFloat, rounded]
    exact Binary64.finite?_toFloat draft.negative bounded

theorem magnitude_lt_infinity_iff :
    draft.magnitude < Binary64.infinity ↔ |draft.number| < (Binary64.overflow : ℚ) := by
  have scale : 0 < 10 ^ draft.places.length := Nat.pow_pos (by decide)
  rw [magnitude, Binary64.nearest_lt_infinity_iff scale, abs_number,
    div_lt_iff₀ (Nat.cast_pos.mpr scale), ← Nat.cast_mul, Nat.cast_lt]

theorem finite?_text_eq_none_iff : Numeral.finite? draft.text = none ↔
    (∀ character ∈ draft.text, character.isDigit = false) ∨
      (Binary64.overflow : ℚ) ≤ |draft.number| := by
  rw [no_digit_iff, ← not_lt, ← magnitude_lt_infinity_iff, finite?_text]
  split
  · rename_i empty
    exact iff_of_true rfl (.inl empty)
  · rename_i digits
    split
    · rename_i small
      exact iff_of_false (Option.some_ne_none _) (not_or.mpr ⟨digits, not_not.mpr small⟩)
    · rename_i large
      exact iff_of_true rfl (.inr large)

theorem closest_of_finite?_text {value : Float} (read : Numeral.finite? draft.text = some value) :
    Binary64.Closest draft.number value ∧ Binary64.isNegative value = draft.negative := by
  have scale : 0 < 10 ^ draft.places.length := Nat.pow_pos (by decide)
  rw [finite?_text] at read
  split at read
  · cases read
  · split at read
    · rename_i small
      cases read
      rw [number_eq]
      exact Binary64.closest_toFloat scale draft.decimal.coefficient draft.negative small
    · cases read

end Draft

/-! ### Runs of the keypad -/

namespace Session

/-- The keys for digits, the point and the sign make drafts of drafts. -/
theorem Retypes.isDraft {limit : Int} {action : Action} {before after : Option (List Char)}
    (digits : ∀ typed, action = .type typed → ∃ digit : Char, typed = [digit] ∧ digit.isDigit = true)
    (retyped : Retypes limit before action after)
    (old : ∀ characters, before = some characters → ∃ draft : Draft, draft.text = characters) :
    ∀ characters, after = some characters → ∃ draft : Draft, draft.text = characters := by
  have empty : ∃ draft : Draft, draft.text = [] :=
    ⟨⟨false, [], none, List.forall_mem_nil _, List.forall_mem_nil _⟩, rfl⟩
  intro characters typing
  cases retyped with
  | kept => exact old characters typing
  | ended => cases typing
  | begun typed =>
      cases typing
      obtain ⟨digit, rfl, isDigit⟩ := digits characters rfl
      obtain ⟨draft, text⟩ := empty
      have next := draft.exists_typed isDigit
      rwa [text] at next
  | typed typed =>
      cases typing
      obtain ⟨digit, rfl, isDigit⟩ := digits typed rfl
      obtain ⟨draft, rfl⟩ := old _ rfl
      exact draft.exists_typed isDigit
  | begunPoint =>
      cases typing
      obtain ⟨draft, text⟩ := empty
      have next := draft.exists_pointed (text ▸ List.not_mem_nil)
      rwa [text] at next
  | pointed _ single =>
      cases typing
      obtain ⟨draft, rfl⟩ := old _ rfl
      exact draft.exists_pointed single
  | begunSign =>
      cases typing
      obtain ⟨draft, text⟩ := empty
      have next := draft.text_flipped
      rw [text] at next
      exact ⟨draft.flipped, next⟩
  | signed =>
      cases typing
      obtain ⟨draft, rfl⟩ := old _ rfl
      exact ⟨draft.flipped, draft.text_flipped⟩

end Session

/-- A number key of the keypad has one digit. -/
theorem Key.digit_of_mem_layout {identifier : CodeText} {key : Key}
    (member : (identifier, key) ∈ Key.layout) {number : Int}
    (named : Key.ofIdentifier identifier = .ok (.number number)) :
    ∃ digit : Char, (toString number).toList = [digit] ∧ digit.isDigit = true := by
  have single : ∀ entry ∈ layout, entry.2 = .number number →
      ∃ digit : Char, (toString number).toList = [digit] ∧ digit.isDigit = true := by
    intro entry member same
    fin_cases member <;> cases same <;> exact ⟨_, rfl, rfl⟩
  rw [Key.ofIdentifier_layout _ member] at named
  exact single _ member (Except.ok.inj named)

namespace Keypad

theorem meet_actions (keypad : Keypad) (event : Event) :
    ∃ actions, (keypad.meet event).session = keypad.session.run actions ∧
      ∀ typed, .type typed ∈ actions → ∃ identifier number, event = .key identifier ∧
        Key.ofIdentifier identifier = .ok (.number number) ∧ typed = (toString number).toList := by
  cases event with
  | voice => exact ⟨[], rfl, nofun⟩
  | picture moment => exact ⟨[], rfl, nofun⟩
  | key identifier =>
      change ∃ actions, (keypad.pressed identifier).session = _ ∧ _
      unfold pressed process
      cases named : Key.ofIdentifier identifier with
      | error error => exact ⟨[], rfl, nofun⟩
      | ok key =>
          refine ⟨_, (keypad.press_session key).1, fun typed member => ?_⟩
          obtain ⟨number, rfl, text⟩ := Key.number_of_action? (Option.mem_toList.mp member)
          exact ⟨identifier, number, rfl, named, text⟩

/-- What is typed in a run are the texts of the numbers whose keys were pressed. -/
theorem meetAll_actions (keypad : Keypad) (events : List Event) :
    ∃ actions, (keypad.meetAll events).session = keypad.session.run actions ∧
      ∀ typed, .type typed ∈ actions → ∃ identifier number, .key identifier ∈ events ∧
        Key.ofIdentifier identifier = .ok (.number number) ∧ typed = (toString number).toList := by
  induction events generalizing keypad with
  | nil => exact ⟨[], rfl, nofun⟩
  | cons event rest inductionHypothesis =>
      obtain ⟨first, met, firstTyped⟩ := keypad.meet_actions event
      obtain ⟨later, reached, laterTyped⟩ := inductionHypothesis (keypad.meet event)
      refine ⟨first ++ later, ?_, fun typed member => ?_⟩
      · rw [Session.run_append, ← met]
        exact reached
      · rcases List.mem_append.mp member with early | late
        · obtain ⟨identifier, number, rfl, named, text⟩ := firstTyped typed early
          exact ⟨identifier, number, List.mem_cons_self, named, text⟩
        · obtain ⟨identifier, number, pressed, named, text⟩ := laterTyped typed late
          exact ⟨identifier, number, List.mem_cons_of_mem _ pressed, named, text⟩

/-- The keys of the keypad lead from a new calculator to sound sessions that have drafts as entries. -/
theorem session_isDraft (settings : Settings) (source : SpeechSource) {events : List Event}
    (keys : ∀ identifier, .key identifier ∈ events → ∃ key, (identifier, key) ∈ Key.layout) :
    let session := ((start settings source).1.meetAll events).session
    session.Sound ∧
      ∀ characters, session.entry = some characters → ∃ draft : Draft, draft.text = characters := by
  intro session
  obtain ⟨actions, reached, typed⟩ := (start settings source).1.meetAll_actions events
  have same : session = _ := reached
  have idle : ∀ characters, (start settings source).1.session.entry = some characters →
      ∃ draft : Draft, draft.text = characters := by
    intro characters typing
    cases typing
  rw [same]
  refine ⟨Session.reachable_sound _ _ _ actions, ?_⟩
  refine Session.run_retypes
    (fun action => ∀ typed, action = .type typed →
      ∃ digit : Char, typed = [digit] ∧ digit.isDigit = true)
    (fun entry => ∀ characters, entry = some characters → ∃ draft : Draft, draft.text = characters)
    Session.Retypes.isDraft rfl idle actions ?_
  rintro action member text rfl
  obtain ⟨identifier, number, pressed, named, rfl⟩ := typed text member
  obtain ⟨key, known⟩ := keys identifier pressed
  exact Key.digit_of_mem_layout known named

/-- Whatever keys of the keypad are pressed, the entry is the text of a draft. The editable leaf has no
value exactly if the draft has no digit or is too large, and else the closest double with its sign. -/
theorem entry_is_draft_of_leaf (settings : Settings) (source : SpeechSource) (events : List Event)
    (keys : ∀ identifier, .key identifier ∈ events → ∃ key, (identifier, key) ∈ Key.layout) :
    let session := ((start settings source).1.meetAll events).session
    ∀ characters, session.entry = some characters →
      (∃ draft : Draft, draft.text = characters) ∧
      ∃ value, session.tree.editableLeaf? = some (.operand value) ∧
        ∀ draft : Draft, draft.text = characters →
          (value = none ↔ (∀ character ∈ characters, character.isDigit = false) ∨
            (Binary64.overflow : ℚ) ≤ |draft.number|) ∧
          ∀ double, value = some double → Binary64.Closest draft.number double ∧
            Binary64.isNegative double = draft.negative := by
  intro session characters typing
  obtain ⟨sound, drafts⟩ : session.Sound ∧
      ∀ characters, session.entry = some characters → ∃ draft : Draft, draft.text = characters :=
    session_isDraft settings source keys
  refine ⟨drafts characters typing, _, sound.editableLeaf?_typing typing, ?_⟩
  rintro draft rfl
  exact ⟨draft.finite?_text_eq_none_iff, fun double read => draft.closest_of_finite?_text read⟩

theorem minus_one_and_half_is_draft :
    let events : List Event :=
      [.key "num_1", .key "dot", .voice, .key "num_5", .key "dot", .key "negate"]
    let session := ((start { maxInputLength := 3 } fun _ => .error "no engine").1.meetAll events).session
    (∀ identifier, .key identifier ∈ events → ∃ key, (identifier, key) ∈ Key.layout) ∧
      session.entry = some "-1.5".toList ∧
      ∃ double, session.tree.editableLeaf? = some (.operand (some double)) ∧
        Binary64.Closest (-3 / 2) double ∧ Binary64.isNegative double = true := by
  intro events session
  have keys : ∀ identifier, .key identifier ∈ events → ∃ key, (identifier, key) ∈ Key.layout := by
    intro identifier member
    simp only [events, List.mem_cons, Event.key.injEq, reduceCtorEq, List.not_mem_nil, or_false,
      false_or] at member
    rcases member with rfl | rfl | rfl | rfl | rfl
    · exact ⟨.number 1, by decide⟩
    · exact ⟨.point, by decide⟩
    · exact ⟨.number 5, by decide⟩
    · exact ⟨.point, by decide⟩
    · exact ⟨.sign, by decide⟩
  have typing : session.entry = some "-1.5".toList := by decide +kernel
  obtain ⟨_, value, held, read⟩ := entry_is_draft_of_leaf { maxInputLength := 3 }
    (fun _ => .error "no engine") events keys _ typing
  let draft : Draft := ⟨true, ['1'], some ['5'], List.forall_mem_singleton.mpr rfl,
    List.forall_mem_singleton.mpr rfl⟩
  have number : draft.number = -3 / 2 := by
    have one : Decimal.ofDigits ['1'] = 1 := rfl
    have five : Decimal.ofDigits ['5'] = 5 := rfl
    simp only [draft, Draft.number, Draft.places, Option.getD_some, Binary64.signed, one, five]
    norm_num
  obtain ⟨absent, double⟩ := read draft rfl
  have small : ¬ (Binary64.overflow : ℚ) ≤ |draft.number| := by
    have large : 2 < Binary64.overflow := by decide +kernel
    have largeRational : (2 : ℚ) < Binary64.overflow := Nat.cast_lt.mpr large
    rw [number, not_le, abs_of_neg (by norm_num)]
    linarith
  have digit : ¬ ∀ character ∈ "-1.5".toList, character.isDigit = false := by
    intro none
    cases none '1' (by decide)
  cases value with
  | none => exact absurd (absent.mp rfl) (not_or.mpr ⟨digit, small⟩)
  | some value =>
      obtain ⟨closest, sign⟩ := double value rfl
      exact ⟨keys, typing, value, held, number ▸ closest, sign⟩

end Keypad
end DeskCalculator
