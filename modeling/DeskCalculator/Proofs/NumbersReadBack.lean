import DeskCalculator.Proofs.FiniteValues
import DeskCalculator.Proofs.NumberDraft

/-! Displayed numbers that are read back. What the display shows for a finite number is read as a number
equal to it, so different numbers look different; the two zeros are equal and look alike. -/

namespace DeskCalculator

/-! ### Doubles and the numbers that they stand for -/

namespace Binary64

theorem size_pos {magnitude : Nat} (positive : 0 < magnitude) : 0 < size magnitude :=
  div_pos (Nat.cast_pos.mpr (units_pos positive)) (Nat.cast_pos.mpr unit_pos)

theorem size_injective {first second : Nat} (firstFinite : first < infinity)
    (secondFinite : second < infinity) (same : size first = size second) : first = second := by
  have unitPositive : (unit : ℚ) ≠ 0 := Nat.cast_ne_zero.mpr (Nat.ne_of_gt unit_pos)
  have units : (units first : ℚ) = units second := (div_left_inj' unitPositive).mp same
  exact units_inj firstFinite secondFinite (Nat.cast_injective units)

theorem abs_toRat (value : Float) : |toRat value| = size (magnitude value) := by
  have nonneg := size_nonneg (magnitude value)
  rw [toRat]
  cases isNegative value with
  | false => exact abs_of_nonneg nonneg
  | true => exact (abs_neg _).trans (abs_of_nonneg nonneg)

theorem toRat_eq_zero_iff (value : Float) : toRat value = 0 ↔ magnitude value = 0 := by
  rw [← abs_eq_zero, abs_toRat]
  constructor
  · intro zero
    by_contra positive
    exact absurd zero (ne_of_gt (size_pos (Nat.pos_of_ne_zero positive)))
  · intro zero
    rw [zero, size_zero]

theorem plainZero_of_pos {value : Float} (positive : magnitude value ≠ 0) :
    plainZero value = value :=
  if_neg fun equal => positive ((beq_zero_iff value).mp equal)

theorem toRat_plainZero (value : Float) : toRat (plainZero value) = toRat value := by
  by_cases zero : magnitude value = 0
  · have none : magnitude 0 = 0 := by decide
    rw [plainZero_of_zero zero, (toRat_eq_zero_iff value).mpr zero, (toRat_eq_zero_iff 0).mpr none]
  · rw [plainZero_of_pos zero]

theorem isNegative_iff {value : Float} (positive : magnitude value ≠ 0) :
    isNegative value = true ↔ toRat value < 0 := by
  have size := size_pos (Nat.pos_of_ne_zero positive)
  rw [toRat]
  cases isNegative value with
  | false => exact iff_of_false Bool.false_ne_true (not_lt.mpr (le_of_lt size))
  | true => exact iff_of_true rfl (neg_lt_zero.mpr size)

/-- Finite doubles that stand for one number are the same, or both zero. -/
theorem plainZero_eq_iff {first second : Float} (firstFinite : first.isFinite = true)
    (secondFinite : second.isFinite = true) :
    plainZero first = plainZero second ↔ toRat first = toRat second := by
  constructor
  · intro same
    rw [← toRat_plainZero first, same, toRat_plainZero]
  · intro same
    have sizes : magnitude first = magnitude second := by
      apply size_injective ((isFinite_iff first).mp firstFinite)
        ((isFinite_iff second).mp secondFinite)
      rw [← abs_toRat, same, abs_toRat]
    by_cases zero : magnitude first = 0
    · rw [plainZero_of_zero zero, plainZero_of_zero (sizes ▸ zero)]
    · have signs : isNegative first = isNegative second := by
        rw [Bool.eq_iff_iff, isNegative_iff zero, isNegative_iff (sizes ▸ zero), same]
      rw [← toFloat_magnitude first, ← toFloat_magnitude second, sizes, signs]

/-- The comparison of finite doubles compares the numbers that they stand for. -/
theorem beq_iff_toRat {first second : Float} (firstFinite : first.isFinite = true)
    (secondFinite : second.isFinite = true) :
    (first == second) = true ↔ toRat first = toRat second := by
  have defined {value : Float} (finite : value.isFinite = true) : value ≠ Float.nan := by
    rintro rfl
    exact absurd finite (by decide)
  constructor
  · intro equal
    have none : magnitude 0 = 0 := by decide
    have minusNone : magnitude (-0) = 0 := by decide
    apply (plainZero_eq_iff firstFinite secondFinite).mp
    rcases (Float.beq_iff_ne_nan_and_eq.mp equal).2.2 with rfl | ⟨rfl, rfl⟩ | ⟨rfl, rfl⟩
    · rfl
    · rw [plainZero_of_zero none, plainZero_of_zero minusNone]
    · rw [plainZero_of_zero none, plainZero_of_zero minusNone]
  · intro same
    by_cases zero : magnitude first = 0
    · have other : magnitude second = 0 :=
        (toRat_eq_zero_iff second).mp (same ▸ (toRat_eq_zero_iff first).mpr zero)
      rw [← toFloat_magnitude first, ← toFloat_magnitude second, zero, other]
      cases isNegative first <;> cases isNegative second <;> decide
    · have other : magnitude second ≠ 0 := fun none =>
        zero ((toRat_eq_zero_iff first).mp (same ▸ (toRat_eq_zero_iff second).mpr none))
      have equal := (plainZero_eq_iff firstFinite secondFinite).mpr same
      rw [plainZero_of_pos zero, plainZero_of_pos other] at equal
      exact Float.beq_iff_ne_nan_and_eq.mpr ⟨defined firstFinite, defined secondFinite, .inl equal⟩

theorem isFinite_plainZero {value : Float} (finite : value.isFinite = true) :
    (plainZero value).isFinite = true := by
  unfold plainZero
  split
  · decide
  · exact finite

theorem whole?_of_toRat {value : Float} (finite : value.isFinite = true) {number : ℤ}
    (same : toRat value = number) : whole? value = some number := by
  have below := (isFinite_iff value).mp finite
  have absolute : size (magnitude value) = number.natAbs := by
    rw [← abs_toRat, same, Nat.cast_natAbs, Int.cast_abs]
  have multiple : units (magnitude value) = number.natAbs * unit := by
    have unitPositive : (unit : ℚ) ≠ 0 := Nat.cast_ne_zero.mpr (Nat.ne_of_gt unit_pos)
    have cast := (div_eq_iff unitPositive).mp absolute
    exact_mod_cast cast
  have sign : (if isNegative value then -(number.natAbs : ℤ) else number.natAbs) = number := by
    rw [toRat, absolute, signed] at same
    apply Int.cast_injective (α := ℚ)
    rw [← same]
    split
    · rw [Int.cast_neg, Int.cast_natCast]
    · rw [Int.cast_natCast]
  rw [whole?, multiple, if_pos ⟨below, Nat.mul_mod_left _ _⟩, Nat.mul_div_cancel _ unit_pos]
  exact congrArg some sign

theorem decide_neg_of_whole? {value : Float} {number : ℤ} (whole : whole? value = some number)
    (positive : magnitude value ≠ 0) : decide (number < 0) = isNegative value := by
  obtain ⟨_, multiple, sign⟩ := whole?_some whole
  have size : 0 < number.natAbs := by
    have unitsPositive := units_pos (Nat.pos_of_ne_zero positive)
    rw [multiple] at unitsPositive
    exact Nat.pos_of_mul_pos_right unitsPositive
  rw [sign]
  cases isNegative value with
  | true => exact decide_eq_true (Int.neg_neg_of_pos (Int.natCast_pos.mpr size))
  | false => exact decide_eq_false (Int.not_lt.mpr (Int.natCast_nonneg _))

end Binary64

/-! ### Reading what is written -/

namespace NumberParts

theorem exponent?_powerText {power : Option (Bool × List Char)}
    (proper : ∀ negative digits, power = some (negative, digits) →
      digits ≠ [] ∧ ∀ digit ∈ digits, digit.isDigit = true) :
    Numeral.exponent? (powerText power) = some (powerValue power) := by
  cases power with
  | none => rfl
  | some written =>
      obtain ⟨negative, digits⟩ := written
      obtain ⟨nonempty, isDigit⟩ := proper negative digits rfl
      have digitsOnly : digits ≠ [] ∧ digits.all Char.isDigit = true :=
        ⟨nonempty, List.all_eq_true.mpr isDigit⟩
      simp only [powerText, Numeral.exponent?, true_or, if_true, Json.splitSign_power,
        if_pos digitsOnly, powerValue]

theorem Proper.unsigned?_text {parts : NumberParts} (proper : parts.Proper) (negative : Bool) :
    Numeral.unsigned? parts.text =
      some ((parts.decimal negative).coefficient, (parts.decimal negative).exponent) := by
  have nonempty : parts.whole ++ parts.fraction ≠ [] := by
    obtain ⟨first, rest, _, start⟩ := proper.whole.first
    rw [start]
    nofun
  have ends := @Json.endsDigits_power parts.power [] trivial
  have exponent := exponent?_powerText proper.power
  have split := splitDigits_append proper.whole.isDigit
    (Json.endsDigits_fraction parts.fraction ends)
  rw [List.append_nil] at ends split
  have joined (fraction : List Char) (same : parts.fraction = fraction) :
      (if parts.whole ++ fraction = [] then none
        else (Numeral.exponent? (powerText parts.power)).map fun power =>
          (Decimal.ofDigits (parts.whole ++ fraction), power - (fraction.length : Int))) =
      some ((parts.decimal negative).coefficient, (parts.decimal negative).exponent) := by
    rw [← same, if_neg nonempty, exponent]
    rfl
  rw [Numeral.unsigned?, text, split]
  cases fraction : parts.fraction with
  | nil =>
      have plain := joined [] fraction
      cases power : parts.power <;> rwa [power] at plain
  | cons first others =>
      have after := splitDigits_append (fraction ▸ proper.fraction) ends
      simp only [fractionText, List.cons_append] at after ⊢
      rw [after]
      exact joined (first :: others) fraction

end NumberParts

theorem splitSign_unsigned {first : Char} (digit : first.isDigit = true) (negative : Bool)
    (rest : List Char) :
    Numeral.splitSign ((if negative then ['-'] else []) ++ first :: rest) =
      (negative, first :: rest) := by
  cases negative with
  | true => rfl
  | false =>
      change Numeral.splitSign (first :: rest) = _
      unfold Numeral.splitSign
      split
      · rename_i same
        cases same
        cases digit
      · rename_i same
        cases same
        cases digit
      · rfl

theorem finite?_write {value : Float} (finite : value.isFinite = true) :
    Numeral.finite? (Layout.plain.write value).toList = some value := by
  have below := (Binary64.isFinite_iff value).mp finite
  obtain ⟨parts, spell, text⟩ := exists_spell_write finite
  obtain ⟨first, others, digit, start⟩ := spell.proper.whole.first
  have body : parts.text = first :: (others ++
      (NumberParts.fractionText parts.fraction ++ NumberParts.powerText parts.power)) := by
    rw [NumberParts.text, start, List.cons_append]
  have split : Numeral.splitSign (Layout.plain.write value).toList =
      (Binary64.isNegative value, parts.text) := by
    rw [text, body, splitSign_unsigned digit]
  have read : Numeral.real? (Layout.plain.write value).toList = some value := by
    rw [Numeral.real?, Numeral.reading?_of_plain fun _ member =>
      Numeral.hasCharacter_write finite member, split,
      spell.proper.unsigned?_text (Binary64.isNegative value)]
    change some (Binary64.toFloat (Binary64.isNegative value)
      (Binary64.ofDecimal (parts.decimal (Binary64.isNegative value)))) = some value
    rw [spell.value, Binary64.ofDecimal_shortest below, Binary64.toFloat_magnitude]
  rw [Numeral.finite?, read, Binary64.finite?, Option.filter_some, if_pos finite]

theorem toList_toString (number : ℤ) :
    (toString number).toList =
      (if number < 0 then ['-'] else []) ++ Decimal.digits number.natAbs := by
  cases number with
  | ofNat size =>
      change (toString size).toList = _
      rw [Nat.toString_eq_ofList_toDigits, String.toList_ofList]
      rfl
  | negSucc size =>
      change ("-" ++ toString (size + 1)).toList = _
      rw [Nat.toString_eq_ofList_toDigits, String.toList_append, String.toList_ofList,
        String.toList_ofList, if_pos (Int.negSucc_lt_zero size)]
      rfl

def Draft.ofInt (number : ℤ) : Draft where
  negative := decide (number < 0)
  whole := Decimal.digits number.natAbs
  fraction := none
  wholeDigits := (wholeDigits_digits number.natAbs).isDigit
  fractionDigits := List.forall_mem_nil _

theorem Draft.text_ofInt (number : ℤ) : (Draft.ofInt number).text = (toString number).toList := by
  have body : (Draft.ofInt number).unsigned = Decimal.digits number.natAbs := List.append_nil _
  have sign : (Draft.ofInt number).negative = decide (number < 0) := rfl
  rw [toList_toString, Draft.text, body, sign]
  by_cases negative : number < 0
  · rw [if_pos negative, if_pos (decide_eq_true negative)]
    rfl
  · rw [if_neg negative, if_neg (by rwa [decide_eq_true_eq])]
    rfl

theorem Draft.coefficient_ofInt (number : ℤ) :
    (Draft.ofInt number).decimal.coefficient = number.natAbs := by
  change Decimal.ofDigits (Decimal.digits number.natAbs ++ []) = _
  rw [List.append_nil, Decimal.ofDigits_digits]

theorem finite?_toString {value : Float} {number : ℤ}
    (whole : Binary64.whole? value = some number) :
    Numeral.finite? (toString number).toList = some (Binary64.plainZero value) := by
  obtain ⟨finite, multiple, _⟩ := Binary64.whole?_some whole
  have rounded : (Draft.ofInt number).magnitude = Binary64.magnitude value := by
    rw [Draft.magnitude, Draft.coefficient_ofInt]
    apply Binary64.nearest_of_units Nat.one_pos finite
    rw [multiple]
    exact (Nat.mul_one _).symm
  have digits : ¬ (Draft.ofInt number).whole ++ (Draft.ofInt number).places = [] := by
    intro empty
    exact Nat.toDigits_ne_nil (List.append_eq_nil_iff.mp empty).1
  have read : Numeral.finite? (toString number).toList =
      some (Binary64.toFloat (decide (number < 0)) (Binary64.magnitude value)) := by
    rw [← Draft.text_ofInt, Draft.finite?_text, if_neg digits, rounded, if_pos finite]
    rfl
  rw [read]
  by_cases zero : Binary64.magnitude value = 0
  · have none : number = 0 := Option.some_inj.mp (whole.symm.trans (Binary64.whole?_zero zero))
    rw [Binary64.plainZero_of_zero zero, zero, none]
    rfl
  · rw [Binary64.plainZero_of_pos zero, Binary64.decide_neg_of_whole? whole zero,
      Binary64.toFloat_magnitude]

/-- A displayed number is read as the number itself; a zero is read without its sign. -/
theorem finite?_displayNumber {value : Float} (finite : value.isFinite = true) :
    Numeral.finite? (displayNumber (some value)).toList = some (Binary64.plainZero value) := by
  by_cases zero : Binary64.magnitude value = 0
  · have text : displayNumber (some value) = toString (0 : ℤ) := displayNumber_zero zero
    rw [text, finite?_toString (Binary64.whole?_zero zero)]
  · rcases displayedNumber_cases value with ⟨number, whole, _, _, shown⟩ | ⟨_, shown⟩
    · rw [shown, finite?_toString whole]
    · rw [shown, finite?_write finite, Binary64.plainZero_of_pos zero]

theorem displayNumber_eq_iff {first second : Float} (firstFinite : first.isFinite = true)
    (secondFinite : second.isFinite = true) :
    displayNumber (some first) = displayNumber (some second) ↔ (first == second) = true := by
  rw [Binary64.beq_iff_toRat firstFinite secondFinite,
    ← Binary64.plainZero_eq_iff firstFinite secondFinite]
  constructor
  · intro same
    have read := finite?_displayNumber firstFinite
    rw [same, finite?_displayNumber secondFinite] at read
    exact (Option.some_inj.mp read).symm
  · intro same
    have shown := displayNumber_plainZero (some first)
    rw [Option.map_some, same] at shown
    exact shown.symm.trans (displayNumber_plainZero (some second))

theorem displayNumber_whole {value : Float} (finite : value.isFinite = true) {number : ℤ}
    (whole : Binary64.toRat value = number) :
    displayNumber (some value) =
      if |number| < 10 ^ 16 then toString number else Layout.plain.write value := by
  have limit : |number| < 10 ^ 16 ↔ number.natAbs < wholeLimit := by
    rw [Int.abs_eq_natAbs]
    exact Int.ofNat_lt
  unfold displayNumber
  dsimp only
  rw [Binary64.whole?_of_toRat finite whole]
  simp only [limit]

/-- The display tells finite numbers apart, and what it shows can be read again. A whole number of at
most sixteen digits is shown by its digits alone, a longer one by the shortest numeral that is read
as the same double. -/
theorem displayed_number_reads_back (value : Float) (finite : value.isFinite = true) :
    (∃ read, Numeral.finite? (displayNumber (some value)).toList = some read ∧
      (read == value) = true) ∧
    (∀ other : Float, other.isFinite = true →
      (displayNumber (some other) = displayNumber (some value) ↔ (other == value) = true)) ∧
    (Binary64.toRat value = 0 → displayNumber (some value) = "0") ∧
    ∀ number : ℤ, Binary64.toRat value = number →
      (|number| < 10 ^ 16 → ∃ digits, WholeDigits digits ∧
        Decimal.ofDigits digits = number.natAbs ∧
        (displayNumber (some value)).toList = (if number < 0 then ['-'] else []) ++ digits) ∧
      (10 ^ 16 ≤ |number| → displayNumber (some value) = Layout.plain.write value) := by
  refine ⟨⟨Binary64.plainZero value, finite?_displayNumber finite, ?_⟩, ?_, ?_, ?_⟩
  · exact (Binary64.beq_iff_toRat (Binary64.isFinite_plainZero finite) finite).mpr
      (Binary64.toRat_plainZero value)
  · exact fun other otherFinite => displayNumber_eq_iff otherFinite finite
  · intro zero
    exact displayNumber_zero ((Binary64.toRat_eq_zero_iff value).mp zero)
  · intro number whole
    have shown := displayNumber_whole finite whole
    constructor
    · intro small
      rw [if_pos small] at shown
      rw [shown]
      exact ⟨Decimal.digits number.natAbs, wholeDigits_digits _, Decimal.ofDigits_digits _,
        toList_toString number⟩
    · intro large
      rw [shown, if_neg (not_lt.mpr large)]

theorem ten_quadrillion_reads_back :
    displayNumber (some 1e16) = "1e+16" ∧
      ∃ read, Numeral.finite? "1e+16".toList = some read ∧ (read == 1e16) = true := by
  have shown : displayNumber (some 1e16) = "1e+16" := by decide +kernel
  have back := (displayed_number_reads_back 1e16 (by decide)).1
  rw [shown] at back
  exact ⟨shown, back⟩

end DeskCalculator
