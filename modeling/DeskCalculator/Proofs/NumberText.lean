import DeskCalculator.Json.Writing
import DeskCalculator.Json.Reading
import DeskCalculator.Proofs.NearestDouble

/-! Written numbers. A number is written in three parts, digits before the point, digits after it and
an exponent, and reading takes the parts apart again, whatever follows the number. So the text of a
number denotes this number only, and shows where it ends. -/

namespace DeskCalculator

/-! ### Decimals that round alike -/

namespace Binary64

theorem roundedQuotient_scale {factor : Nat} (positive : 0 < factor)
    (numerator denominator : Nat) :
    roundedQuotient (numerator * factor) (denominator * factor) =
      roundedQuotient numerator denominator := by
  simp only [roundedQuotient]
  rw [Nat.mul_div_mul_right _ _ positive, Nat.mul_mod_mul_right, ← Nat.mul_assoc]
  simp only [Nat.mul_lt_mul_right positive]

theorem nearest_scale {factor : Nat} (positive : 0 < factor) (numerator denominator : Nat) :
    nearest (numerator * factor) (denominator * factor) = nearest numerator denominator := by
  simp only [nearest]
  rw [Nat.mul_right_comm numerator factor unit, Nat.mul_div_mul_right _ _ positive,
    Nat.mul_right_comm denominator factor, roundedQuotient_scale positive]

theorem units_zero : units 0 = 0 := rfl

theorem ofDecimal_point_zero (negative : Bool) (coefficient : Nat) {power : Nat}
    (small : power ≤ 310) :
    ofDecimal ⟨negative, coefficient * Nat.pow 10 power * 10, -1⟩ =
      ofDecimal ⟨negative, coefficient, power⟩ := by
  change (if (coefficient * Nat.pow 10 power * 10).log2 + 1077 < 3 then 0
    else nearest (coefficient * Nat.pow 10 power * 10) 10) =
      if coefficient = 0 then 0 else if 310 < power then infinity
        else nearest (coefficient * Nat.pow 10 power) 1
  rw [if_neg (by omega), if_neg (Nat.not_lt.mpr small)]
  by_cases zero : coefficient = 0
  · rw [if_pos zero, zero, Nat.zero_mul, Nat.zero_mul]
    exact nearest_of_units (by decide) (by decide) (by rw [Nat.zero_mul, units_zero, Nat.zero_mul])
  · rw [if_neg zero]
    exact nearest_scale (by decide) (coefficient * Nat.pow 10 power) 1

end Binary64

/-! ### The parts of a written number -/

structure NumberParts where
  whole : List Char
  fraction : List Char
  power : Option (Bool × List Char)

namespace NumberParts

def powerText : Option (Bool × List Char) → List Char
  | none => []
  | some (negative, digits) => 'e' :: (if negative then '-' else '+') :: digits

def fractionText : List Char → List Char
  | [] => []
  | first :: rest => '.' :: first :: rest

def text (parts : NumberParts) : List Char :=
  parts.whole ++ (fractionText parts.fraction ++ powerText parts.power)

def powerValue : Option (Bool × List Char) → Int
  | none => 0
  | some (negative, digits) =>
    let size : Int := (Decimal.ofDigits digits : Nat)
    if negative then -size else size

def decimal (parts : NumberParts) (negative : Bool) : Decimal :=
  ⟨negative, Decimal.ofDigits (parts.whole ++ parts.fraction),
    powerValue parts.power - parts.fraction.length⟩

end NumberParts

/-- Digits, and no zero before the first of them unless it is the only one. -/
structure WholeDigits (digits : List Char) : Prop where
  isDigit : ∀ digit ∈ digits, digit.isDigit = true
  unpadded : digits = ['0'] ∨ ∃ first rest, digits = first :: rest ∧ first ≠ '0'

structure NumberParts.Proper (parts : NumberParts) : Prop where
  whole : WholeDigits parts.whole
  fraction : ∀ digit ∈ parts.fraction, digit.isDigit = true
  power : ∀ negative digits, parts.power = some (negative, digits) →
    digits ≠ [] ∧ ∀ digit ∈ digits, digit.isDigit = true
  real : parts.fraction ≠ [] ∨ parts.power ≠ none

/-! ### Reading the parts -/

def EndsNumber : List Char → Prop
  | [] => True
  | first :: _ => first.isDigit = false ∧ first ≠ '.' ∧ first ≠ 'e' ∧ first ≠ 'E'

def EndsDigits : List Char → Prop
  | [] => True
  | first :: _ => first.isDigit = false

theorem EndsNumber.endsDigits {rest : List Char} (ends : EndsNumber rest) : EndsDigits rest := by
  cases rest with
  | nil => trivial
  | cons first after => exact ends.1

theorem splitDigits_append {digits rest : List Char}
    (isDigit : ∀ digit ∈ digits, digit.isDigit = true) (ends : EndsDigits rest) :
    Numeral.splitDigits (digits ++ rest) = (digits, rest) := by
  unfold Numeral.splitDigits
  rw [List.takeWhile_append_of_pos isDigit, List.dropWhile_append_of_pos isDigit]
  cases rest with
  | nil => simp
  | cons first after =>
      have other : ¬ first.isDigit = true := by
        rw [show first.isDigit = false from ends]
        decide
      rw [List.takeWhile_cons_of_neg other, List.dropWhile_cons_of_neg other, List.append_nil]

namespace Json

open NumberParts

theorem wholeDigits?_append {digits rest : List Char} (whole : WholeDigits digits)
    (ends : EndsDigits rest) : wholeDigits? (digits ++ rest) = some (digits, rest) := by
  have split := splitDigits_append whole.isDigit ends
  rcases whole.unpadded with rfl | ⟨first, others, rfl, nonzero⟩
  · rfl
  · rw [List.cons_append] at split ⊢
    rw [wholeDigits?, split]
    · simp
    · intro after same
      cases same
      exact nonzero rfl

theorem fraction?_text {fraction rest : List Char}
    (isDigit : ∀ digit ∈ fraction, digit.isDigit = true) (ends : EndsDigits rest)
    (point : ∀ after, rest ≠ '.' :: after) :
    (fraction? (fractionText fraction ++ rest)).getD ([], fractionText fraction ++ rest) =
        (fraction, rest) ∧
      ((fraction? (fractionText fraction ++ rest)).isNone = true ↔ fraction = []) := by
  cases fraction with
  | nil =>
      have absent : fraction? rest = none := by
        unfold fraction?
        split
        · exact absurd rfl (point _)
        · rfl
      simp [fractionText, absent]
  | cons first others =>
      have split := splitDigits_append isDigit ends
      simp only [List.cons_append] at split
      simp [fractionText, fraction?, split]

theorem splitSign_power (negative : Bool) (rest : List Char) :
    Numeral.splitSign ((if negative then '-' else '+') :: rest) = (negative, rest) := by
  cases negative <;> rfl

theorem power?_text {power : Option (Bool × List Char)} {rest : List Char}
    (proper : ∀ negative digits, power = some (negative, digits) →
      digits ≠ [] ∧ ∀ digit ∈ digits, digit.isDigit = true) (ends : EndsNumber rest) :
    (power? (powerText power ++ rest)).getD (0, powerText power ++ rest) =
        (powerValue power, rest) ∧
      ((power? (powerText power ++ rest)).isNone = true ↔ power = none) := by
  cases power with
  | none =>
      have absent : power? rest = none := by
        cases rest with
        | nil => rfl
        | cons first after =>
            obtain ⟨_, _, lower, upper⟩ := ends
            simp [power?, lower, upper]
      simp [powerText, absent, powerValue]
  | some written =>
      obtain ⟨negative, digits⟩ := written
      obtain ⟨nonempty, isDigit⟩ := proper negative digits rfl
      have split := splitDigits_append isDigit ends.endsDigits
      simp [powerText, power?, splitSign_power, split, nonempty, powerValue]

theorem endsDigits_power (power : Option (Bool × List Char)) {rest : List Char}
    (ends : EndsDigits rest) : EndsDigits (powerText power ++ rest) := by
  cases power with
  | none => exact ends
  | some written => rfl

theorem endsDigits_fraction (fraction : List Char) {rest : List Char}
    (ends : EndsDigits rest) : EndsDigits (fractionText fraction ++ rest) := by
  cases fraction with
  | nil => exact ends
  | cons first others => rfl

theorem power_noPoint (power : Option (Bool × List Char)) {rest : List Char}
    (ends : EndsNumber rest) (after : List Char) : powerText power ++ rest ≠ '.' :: after := by
  intro same
  cases power with
  | none =>
      cases rest with
      | nil => cases same
      | cons first others =>
          cases same
          exact ends.2.1 rfl
  | some written => cases same

/-- The number that was written is read, up to where its text ends. -/
theorem readNumber_text {parts : NumberParts} (proper : parts.Proper) (negative : Bool)
    {rest : List Char} (ends : EndsNumber rest) :
    readNumber negative (parts.text ++ rest) =
      .ok (.real (Binary64.toFloat negative (Binary64.ofDecimal (parts.decimal negative))),
        rest) := by
  have powerEnds := endsDigits_power parts.power ends.endsDigits
  have whole := wholeDigits?_append proper.whole (endsDigits_fraction parts.fraction powerEnds)
  obtain ⟨fraction, noFraction⟩ :=
    fraction?_text proper.fraction powerEnds (power_noPoint parts.power ends)
  obtain ⟨power, noPower⟩ := power?_text proper.power ends
  have notWhole : ¬ (parts.fraction = [] ∧ parts.power = none) := by
    rintro ⟨empty, absent⟩
    rcases proper.real with present | present
    · exact present empty
    · exact present absent
  rw [NumberParts.text, List.append_assoc, List.append_assoc]
  simp only [readNumber, whole, fraction, power, noFraction, noPower, if_neg notWhole,
    NumberParts.decimal]

theorem readNumber_row {digits : List Char} (whole : WholeDigits digits) (negative : Bool)
    {rest : List Char} (ends : EndsNumber rest) :
    readNumber negative (digits ++ rest) =
      if Numeral.digitLimit < digits.length then .error (.tooLong digits.length)
      else .ok (.whole (if negative then -(Decimal.ofDigits digits : Nat)
        else (Decimal.ofDigits digits : Nat)), rest) := by
  have noDigits : ∀ digit ∈ ([] : List Char), digit.isDigit = true := by simp
  obtain ⟨fraction, noFraction⟩ :=
    fraction?_text noDigits ends.endsDigits (power_noPoint none ends)
  obtain ⟨power, noPower⟩ := @power?_text none rest (by simp) ends
  rw [fractionText, List.nil_append] at fraction noFraction
  rw [powerText, List.nil_append] at power noPower
  simp only [readNumber, wholeDigits?_append whole ends.endsDigits, fraction, power, noFraction,
    noPower, and_self, if_true]

theorem readNumber_digits {digits : List Char} (whole : WholeDigits digits)
    (short : digits.length ≤ Numeral.digitLimit) (negative : Bool) {rest : List Char}
    (ends : EndsNumber rest) :
    readNumber negative (digits ++ rest) =
      .ok (.whole (if negative then -(Decimal.ofDigits digits : Nat)
        else (Decimal.ofDigits digits : Nat)), rest) :=
  (readNumber_row whole negative ends).trans (if_neg (Nat.not_lt.mpr short))

end Json

/-! ### Laying out the parts -/

theorem digits_head_ne_zero {number : Nat} (positive : 0 < number) :
    ∃ first rest, Decimal.digits number = first :: rest ∧ first ≠ '0' := by
  induction number using Nat.strongRecOn with
  | ind number inductionHypothesis =>
      by_cases small : number < 10
      · refine ⟨number.digitChar, [], Nat.toDigits_of_lt_base small, ?_⟩
        intro zero
        have value := Nat.toNat_digitChar_of_lt_ten small
        rw [zero] at value
        have code : '0'.toNat = 48 := rfl
        omega
      · have large : 10 ≤ number := Nat.le_of_not_lt small
        obtain ⟨first, rest, written, nonzero⟩ :=
          inductionHypothesis (number / 10) (by omega) (by omega)
        refine ⟨first, rest ++ [(number % 10).digitChar], ?_, nonzero⟩
        rw [Decimal.digits, Nat.toDigits_of_base_le (by decide) large]
        rw [Decimal.digits] at written
        rw [written, List.cons_append]

theorem wholeDigits_digits (number : Nat) : WholeDigits (Decimal.digits number) := by
  refine ⟨fun digit member => Decimal.isDigit_of_mem_digits member, ?_⟩
  by_cases zero : number = 0
  · subst number
    exact .inl rfl
  · exact .inr (digits_head_ne_zero (Nat.pos_of_ne_zero zero))

theorem isDigit_of_mem_zeros {count : Nat} {digit : Char} (member : digit ∈ Layout.zeros count) :
    digit.isDigit = true := by
  rw [List.eq_of_mem_replicate member]
  decide

theorem ofDigits_append_zeros (digits : List Char) (count : Nat) :
    Decimal.ofDigits (digits ++ Layout.zeros count) = Decimal.ofDigits digits * 10 ^ count := by
  rw [Decimal.ofDigits, Nat.ofDigitChars_append, Layout.zeros, Nat.ofDigitChars_replicate_zero,
    Nat.mul_comm]
  rfl

theorem ofDigits_zeros_append (count : Nat) (digits : List Char) :
    Decimal.ofDigits (Layout.zeros count ++ digits) = Decimal.ofDigits digits := by
  rw [Decimal.ofDigits, Nat.ofDigitChars_append, Layout.zeros, Nat.ofDigitChars_replicate_zero,
    Nat.mul_zero]
  rfl

namespace NumberParts

theorem fractionText_of_ne_nil {fraction : List Char} (nonempty : fraction ≠ []) :
    fractionText fraction = '.' :: fraction := by
  cases fraction with
  | nil => exact absurd rfl nonempty
  | cons first others => rfl

structure Spell (parts : NumberParts) (text : List Char) (decimal : Decimal) : Prop where
  proper : parts.Proper
  text : parts.text = text
  value : ∀ negative,
    Binary64.ofDecimal (parts.decimal negative) = Binary64.ofDecimal decimal

theorem value_of_eq {parts : NumberParts} {decimal : Decimal}
    (coefficient : Decimal.ofDigits (parts.whole ++ parts.fraction) = decimal.coefficient)
    (exponent : powerValue parts.power - parts.fraction.length = decimal.exponent)
    (negative : Bool) :
    Binary64.ofDecimal (parts.decimal negative) = Binary64.ofDecimal decimal := by
  rw [NumberParts.decimal, coefficient, exponent]
  cases decimal
  rfl

theorem spell_below_one {decimal : Decimal} {down : Nat}
    (power : decimal.exponent + (Decimal.digits decimal.coefficient).length - 1 = .negSucc down) :
    ∃ parts : NumberParts, parts.Spell
      (Layout.positional (Decimal.digits decimal.coefficient) (.negSucc down)) decimal := by
  have nonempty : Layout.zeros down ++ Decimal.digits decimal.coefficient ≠ [] := by
    intro empty
    exact Nat.toDigits_ne_nil (List.append_eq_nil_iff.mp empty).2
  refine ⟨⟨['0'], Layout.zeros down ++ Decimal.digits decimal.coefficient, none⟩, ?_, ?_, ?_⟩
  · refine ⟨⟨by simp, .inl rfl⟩, ?_, by simp, .inl nonempty⟩
    intro digit member
    rcases List.mem_append.mp member with zero | other
    · exact isDigit_of_mem_zeros zero
    · exact Decimal.isDigit_of_mem_digits other
  · rw [NumberParts.text, fractionText_of_ne_nil nonempty, powerText, List.append_nil]
    rfl
  · apply value_of_eq
    · change Decimal.ofDigits (Layout.zeros 1 ++ (Layout.zeros down ++ _)) = _
      rw [ofDigits_zeros_append, ofDigits_zeros_append, Decimal.ofDigits_digits]
    · rw [powerValue, List.length_append, Layout.zeros, List.length_replicate]
      omega

theorem wholeDigits_take (number count : Nat) :
    WholeDigits ((Decimal.digits number).take (count + 1)) := by
  constructor
  · intro digit member
    exact Decimal.isDigit_of_mem_digits (List.mem_of_mem_take member)
  · rcases (wholeDigits_digits number).unpadded with single | ⟨first, rest, written, nonzero⟩
    · rw [single, List.take_succ_cons, List.take_nil]
      exact .inl rfl
    · rw [written, List.take_succ_cons]
      exact .inr ⟨first, rest.take count, rfl, nonzero⟩

theorem spell_split {decimal : Decimal} {up : Nat}
    (power : decimal.exponent + (Decimal.digits decimal.coefficient).length - 1 = up)
    (several : up + 1 < (Decimal.digits decimal.coefficient).length) :
    ∃ parts : NumberParts, parts.Spell
      (Layout.positional (Decimal.digits decimal.coefficient) up) decimal := by
  have nonempty : (Decimal.digits decimal.coefficient).drop (up + 1) ≠ [] := by
    intro empty
    have length := congrArg List.length empty
    rw [List.length_drop, List.length_nil] at length
    omega
  refine ⟨⟨(Decimal.digits decimal.coefficient).take (up + 1),
    (Decimal.digits decimal.coefficient).drop (up + 1), none⟩, ?_, ?_, ?_⟩
  · refine ⟨wholeDigits_take _ up, ?_, by simp, .inl nonempty⟩
    intro digit member
    exact Decimal.isDigit_of_mem_digits (List.mem_of_mem_drop member)
  · have noZeros : up + 1 - (Decimal.digits decimal.coefficient).length = 0 := by omega
    rw [NumberParts.text, fractionText_of_ne_nil nonempty, powerText, List.append_nil]
    simp only [Layout.positional, noZeros, if_neg nonempty]
    simp [Layout.zeros]
  · apply value_of_eq
    · rw [List.take_append_drop, Decimal.ofDigits_digits]
    · rw [powerValue, List.length_drop]
      omega

theorem spell_whole {decimal : Decimal} {up : Nat} (small : up ≤ 310)
    (power : decimal.exponent + (Decimal.digits decimal.coefficient).length - 1 = up)
    (few : (Decimal.digits decimal.coefficient).length ≤ up + 1)
    (zero : decimal.coefficient = 0 → decimal.exponent = 0) :
    ∃ parts : NumberParts, parts.Spell
      (Layout.positional (Decimal.digits decimal.coefficient) up) decimal := by
  have zeros : decimal.exponent =
      (up + 1 - (Decimal.digits decimal.coefficient).length : Nat) := by omega
  refine ⟨⟨Decimal.digits decimal.coefficient ++
    Layout.zeros (up + 1 - (Decimal.digits decimal.coefficient).length), ['0'], none⟩, ?_, ?_, ?_⟩
  · refine ⟨⟨?_, ?_⟩, by simp, by simp, .inl (by simp)⟩
    · intro digit member
      rcases List.mem_append.mp member with other | padding
      · exact Decimal.isDigit_of_mem_digits other
      · exact isDigit_of_mem_zeros padding
    · by_cases none : decimal.coefficient = 0
      · have noZeros : up + 1 - (Decimal.digits decimal.coefficient).length = 0 := by
          have exponent := zero none
          omega
        rw [noZeros, none]
        exact .inl rfl
      · obtain ⟨first, rest, written, nonzero⟩ := digits_head_ne_zero (Nat.pos_of_ne_zero none)
        rw [written]
        exact .inr ⟨first, _, rfl, nonzero⟩
  · have allTaken : (Decimal.digits decimal.coefficient).take (up + 1) =
        Decimal.digits decimal.coefficient := List.take_of_length_le few
    have noneLeft : (Decimal.digits decimal.coefficient).drop (up + 1) = [] :=
      List.drop_eq_nil_of_le few
    simp only [Layout.positional, allTaken, noneLeft, if_true]
    simp [NumberParts.text, fractionText, powerText]
  · intro negative
    have positive : 0 < (Decimal.digits decimal.coefficient).length := Nat.length_toDigits_pos
    have coefficient : Decimal.ofDigits (Decimal.digits decimal.coefficient ++
        Layout.zeros (up + 1 - (Decimal.digits decimal.coefficient).length) ++ Layout.zeros 1) =
        decimal.coefficient *
          Nat.pow 10 (up + 1 - (Decimal.digits decimal.coefficient).length) * 10 := by
      rw [ofDigits_append_zeros, ofDigits_append_zeros, Decimal.ofDigits_digits]
      rfl
    calc
      _ = Binary64.ofDecimal ⟨negative, _, -1⟩ :=
        congrArg (fun number => Binary64.ofDecimal ⟨negative, number, -1⟩) coefficient
      _ = Binary64.ofDecimal ⟨negative, decimal.coefficient, decimal.exponent⟩ := by
        rw [Binary64.ofDecimal_point_zero _ _ (by omega), ← zeros]
      _ = Binary64.ofDecimal decimal := rfl

theorem spell_scientific {decimal : Decimal} {power : Int} (layout : Layout)
    (same : decimal.exponent + (Decimal.digits decimal.coefficient).length - 1 = power) :
    ∃ parts : NumberParts, parts.Spell
      (layout.scientific (Decimal.digits decimal.coefficient) power) decimal := by
  refine ⟨⟨(Decimal.digits decimal.coefficient).take 1,
    (Decimal.digits decimal.coefficient).drop 1,
    some (decide (power < 0), Layout.zeros (layout.exponentWidth -
      (Decimal.digits power.natAbs).length) ++ Decimal.digits power.natAbs)⟩, ?_, ?_, ?_⟩
  · refine ⟨wholeDigits_take _ 0, ?_, ?_, .inr (by simp)⟩
    · intro digit member
      exact Decimal.isDigit_of_mem_digits (List.mem_of_mem_drop member)
    · rintro negative digits written
      cases written
      constructor
      · intro empty
        exact Nat.toDigits_ne_nil (List.append_eq_nil_iff.mp empty).2
      · intro digit member
        rcases List.mem_append.mp member with zero | other
        · exact isDigit_of_mem_zeros zero
        · exact Decimal.isDigit_of_mem_digits other
  · rw [NumberParts.text, powerText, Layout.scientific]
    have fraction (digits : List Char) :
        fractionText digits = if digits = [] then [] else '.' :: digits := by
      cases digits <;> rfl
    rw [fraction]
    simp
  · apply value_of_eq
    · rw [List.take_append_drop, Decimal.ofDigits_digits]
    · have positive : 0 < (Decimal.digits decimal.coefficient).length := Nat.length_toDigits_pos
      simp only [powerValue, List.length_drop, ofDigits_zeros_append, Decimal.ofDigits_digits,
        decide_eq_true_eq]
      split <;> omega

theorem exists_spell_size {decimal : Decimal}
    (zero : decimal.coefficient = 0 → decimal.exponent = 0) :
    ∃ parts : NumberParts, parts.Spell (Layout.plain.size decimal) decimal := by
  rw [Layout.size]
  split
  · rename_i positional
    cases power : decimal.exponent + (Decimal.digits decimal.coefficient).length - 1 with
    | negSucc down => exact spell_below_one power
    | ofNat up =>
        by_cases several : up + 1 < (Decimal.digits decimal.coefficient).length
        · exact spell_split power several
        · have small : up < 16 := by
            have below := positional.2
            rw [power] at below
            exact Int.ofNat_lt.mp below
          exact spell_whole (by omega) power (Nat.le_of_not_lt several) zero
  · exact spell_scientific Layout.plain rfl

end NumberParts

/-! ### Numbers as texts -/

namespace Binary64

theorem ofDecimal_zero (negative : Bool) (exponent : Int) :
    ofDecimal ⟨negative, 0, exponent⟩ = 0 := by
  cases exponent with
  | ofNat power => rfl
  | negSucc power =>
      change (if Nat.log2 0 + 1077 < 3 * (power + 1) then 0
        else nearest 0 (Nat.pow 10 (power + 1))) = 0
      split
      · rfl
      · apply nearest_of_units (Nat.pow_pos (by decide)) (by decide)
        rw [Nat.zero_mul, units_zero, Nat.zero_mul]

theorem exponent_shortest {magnitude : Nat} (finite : magnitude < infinity)
    (zero : (shortest magnitude).coefficient = 0) : (shortest magnitude).exponent = 0 := by
  have read := ofDecimal_shortest finite
  cases written : shortest magnitude with
  | mk negative coefficient exponent =>
      rw [written] at zero read
      dsimp only at zero
      rw [zero, ofDecimal_zero] at read
      rw [← read] at written
      cases written
      rfl

end Binary64

namespace Json

def readSigned : List Char → Read Number
  | '-' :: rest => readNumber true rest
  | rest => readNumber false rest

theorem readSigned_minus (rest : List Char) : readSigned ('-' :: rest) = readNumber true rest :=
  rfl

theorem readSigned_digit {first : Char} (digit : first.isDigit = true) (rest : List Char) :
    readSigned (first :: rest) = readNumber false (first :: rest) := by
  unfold readSigned
  split
  · rename_i same
    cases same
    cases digit
  · rfl

end Json

theorem ne_of_isDigit {character mark : Char} (digit : character.isDigit = true)
    (other : mark.isDigit = false) : character ≠ mark := by
  rintro rfl
  rw [digit] at other
  cases other

theorem isSpace_of_isDigit {character : Char} (digit : character.isDigit = true) :
    Json.isSpace character = false := by
  have space : character ≠ ' ' := ne_of_isDigit digit rfl
  have tab : character ≠ '\t' := ne_of_isDigit digit rfl
  have lineFeed : character ≠ '\n' := ne_of_isDigit digit rfl
  have carriageReturn : character ≠ '\r' := ne_of_isDigit digit rfl
  simp [Json.isSpace, space, tab, lineFeed, carriageReturn]

/-- What the text of a finite number is made of. -/
def Numeral.hasCharacter (character : Char) : Prop :=
  character.isDigit = true ∨ character ∈ ['-', '+', '.', 'e']

theorem NumberParts.Proper.hasCharacter {parts : NumberParts} (proper : parts.Proper)
    {character : Char} (member : character ∈ parts.text) : Numeral.hasCharacter character := by
  rw [text, List.mem_append, List.mem_append] at member
  rcases member with whole | fraction | power
  · exact .inl (proper.whole.isDigit character whole)
  · cases written : parts.fraction with
    | nil =>
        rw [written] at fraction
        cases fraction
    | cons first rest =>
        rw [written] at fraction
        rcases List.mem_cons.mp fraction with rfl | digit
        · exact .inr (by decide)
        · exact .inl (proper.fraction character (written ▸ digit))
  · cases written : parts.power with
    | none =>
        rw [written] at power
        cases power
    | some exponent =>
        obtain ⟨negative, digits⟩ := exponent
        rw [written] at power
        rcases List.mem_cons.mp power with rfl | signed
        · exact .inr (by decide)
        · rcases List.mem_cons.mp signed with rfl | digit
          · cases negative <;> exact .inr (by decide)
          · exact .inl ((proper.power negative digits written).2 character digit)

theorem NumberParts.Proper.spaceless {parts : NumberParts} (proper : parts.Proper)
    {character : Char} (member : character ∈ parts.text) : Json.isSpace character = false := by
  rcases proper.hasCharacter member with digit | mark
  · exact isSpace_of_isDigit digit
  · simp only [List.mem_cons, List.not_mem_nil, or_false] at mark
    rcases mark with rfl | rfl | rfl | rfl <;> rfl

/-- The text denotes the number, whatever follows it. -/
structure Denotes (text : List Char) (number : Number) : Prop where
  start : ∃ first rest, first.isDigit = true ∧ (text = first :: rest ∨ text = '-' :: first :: rest)
  spaceless : ∀ character ∈ text, Json.isSpace character = false
  read : ∀ rest, EndsNumber rest → Json.readSigned (text ++ rest) = .ok (number, rest)

theorem WholeDigits.first {digits : List Char} (whole : WholeDigits digits) :
    ∃ first rest, first.isDigit = true ∧ digits = first :: rest := by
  rcases whole.unpadded with rfl | ⟨first, rest, rfl, _⟩
  · exact ⟨'0', [], rfl, rfl⟩
  · exact ⟨first, rest, whole.isDigit first List.mem_cons_self, rfl⟩

/-- What is read as a number without a sign is read with its sign before it. -/
theorem Denotes.of_readNumber {body : List Char} {number : Bool → Number} {first : Char}
    {others : List Char} (digit : first.isDigit = true) (start : body = first :: others)
    (spaceless : ∀ character ∈ body, Json.isSpace character = false)
    (read : ∀ negative rest, EndsNumber rest →
      Json.readNumber negative (body ++ rest) = .ok (number negative, rest)) (negative : Bool) :
    Denotes ((if negative then ['-'] else []) ++ body) (number negative) := by
  cases negative with
  | false =>
      refine ⟨⟨first, others, digit, .inl start⟩, spaceless, ?_⟩
      intro rest ends
      have plain := read false rest ends
      rw [start, List.cons_append] at plain
      change Json.readSigned (body ++ rest) = _
      rw [start, List.cons_append, Json.readSigned_digit digit, plain]
  | true =>
      refine ⟨⟨first, others, digit, .inr (congrArg ('-' :: ·) start)⟩, ?_, read true⟩
      intro character member
      rcases List.mem_cons.mp member with rfl | inside
      · rfl
      · exact spaceless character inside

theorem exists_spell_write {value : Float} (finite : value.isFinite = true) :
    ∃ parts : NumberParts,
      parts.Spell (Layout.plain.size (Binary64.shortest (Binary64.magnitude value)))
        (Binary64.shortest (Binary64.magnitude value)) ∧
      (Layout.plain.write value).toList =
        (if Binary64.isNegative value then ['-'] else []) ++ parts.text := by
  have below := (Binary64.isFinite_iff value).mp finite
  obtain ⟨parts, spell⟩ :=
    NumberParts.exists_spell_size (Binary64.exponent_shortest below)
  refine ⟨parts, spell, ?_⟩
  rw [Layout.write, if_neg (Nat.not_lt.mpr (Nat.le_of_lt below)), if_neg (Nat.ne_of_lt below),
    String.toList_append, String.toList_ofList, spell.text]
  split <;> rfl

theorem denotes_write {value : Float} (finite : value.isFinite = true) :
    Denotes (Layout.plain.write value).toList (.real value) := by
  have below := (Binary64.isFinite_iff value).mp finite
  obtain ⟨parts, spell, text⟩ := exists_spell_write finite
  obtain ⟨first, others, digit, start⟩ := spell.proper.whole.first
  have body : parts.text = first :: (others ++
      (NumberParts.fractionText parts.fraction ++ NumberParts.powerText parts.power)) := by
    rw [NumberParts.text, start, List.cons_append]
  have denoted := Denotes.of_readNumber digit body
    (fun _ member => spell.proper.spaceless member)
    (fun negative rest ends => Json.readNumber_text spell.proper negative ends)
    (Binary64.isNegative value)
  rw [text]
  rw [spell.value, Binary64.ofDecimal_shortest below, Binary64.toFloat_magnitude] at denoted
  exact denoted

theorem denotes_toString {number : Int}
    (short : (Decimal.digits number.natAbs).length ≤ Numeral.digitLimit) :
    Denotes (toString number).toList (.whole number) := by
  have whole := wholeDigits_digits number.natAbs
  obtain ⟨first, others, digit, start⟩ := whole.first
  have denoted := Denotes.of_readNumber digit start
    (fun character member => isSpace_of_isDigit (whole.isDigit character member))
    (fun negative rest ends => Json.readNumber_digits whole short negative ends)
  rw [Decimal.ofDigits_digits] at denoted
  cases number with
  | ofNat size =>
      change Denotes (toString size).toList (.whole size)
      rw [Nat.toString_eq_ofList_toDigits, String.toList_ofList]
      exact denoted false
  | negSucc size =>
      change Denotes ("-" ++ toString (size + 1)).toList (.whole (-(size + 1 : Nat)))
      rw [Nat.toString_eq_ofList_toDigits, String.toList_append, String.toList_ofList,
        String.toList_ofList]
      exact denoted true

/-- A number's text is followed by nothing that could be a part of it, so it is told apart. -/
theorem Denotes.cancel {first second : List Char} {firstNumber secondNumber : Number}
    {firstRest secondRest : List Char} (firstDenotes : Denotes first firstNumber)
    (secondDenotes : Denotes second secondNumber) (firstEnds : EndsNumber firstRest)
    (secondEnds : EndsNumber secondRest) (same : first ++ firstRest = second ++ secondRest) :
    firstNumber = secondNumber ∧ firstRest = secondRest := by
  have read := firstDenotes.read firstRest firstEnds
  rw [same, secondDenotes.read secondRest secondEnds] at read
  cases read
  exact ⟨rfl, rfl⟩

end DeskCalculator
