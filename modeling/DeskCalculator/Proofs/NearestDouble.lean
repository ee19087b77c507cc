import Mathlib
import DeskCalculator.Number.Shortest

/-! Doubles and the fractions that they stand for. A double is its sign and its magnitude; the fraction
of a finite magnitude rounds to this magnitude and no other, and so does its shortest decimal. -/

namespace DeskCalculator.Binary64

theorem span_eq : span = 4503599627370496 := rfl

theorem infinity_eq : infinity = 2047 * 4503599627370496 := rfl

theorem signWeight_eq : signWeight = 9223372036854775808 := rfl

theorem unit_eq : unit = Nat.pow 2 1074 := by
  unfold unit
  with_reducible rfl

theorem unit_pos : 0 < unit := by
  rw [unit_eq]
  generalize 1074 = places
  exact Nat.two_pow_pos places

/-! ### Signs and magnitudes -/

theorem toBits_toNat (value : Float) :
    value.toBits.toNat =
      if isNegative value then magnitude value + signWeight else magnitude value := by
  have bounded := value.toBits.toNat_lt
  by_cases negative : 9223372036854775808 ≤ value.toBits.toNat
  · simp only [isNegative, magnitude, signWeight_eq, negative, decide_true, if_true]
    omega
  · simp only [isNegative, magnitude, signWeight_eq, negative, decide_false]
    exact (Nat.mod_eq_of_lt (Nat.lt_of_not_le negative)).symm

theorem toFloat_magnitude (value : Float) :
    toFloat (isNegative value) (magnitude value) = value := by
  unfold toFloat
  rw [← toBits_toNat, UInt64.ofNat_toNat, Float.ofBits_toBits]

def exponentBits (value : Float) : BitVec 11 :=
  @Float.Model.UnpackedFloat.unpackExponent .binary64 value.toBits.toBitVec

def fractionBits (value : Float) : BitVec 52 :=
  @Float.Model.UnpackedFloat.unpackMantissa .binary64 value.toBits.toBitVec

theorem exponentBits_toNat (value : Float) :
    (exponentBits value).toNat = magnitude value / span := by
  rw [exponentBits, Float.Model.UnpackedFloat.unpackExponent_def, BitVec.extractLsb'_toNat,
    UInt64.toNat_toBitVec, Nat.shiftRight_eq_div_pow, magnitude, span_eq, signWeight_eq]
  norm_num
  omega

theorem fractionBits_toNat (value : Float) :
    (fractionBits value).toNat = magnitude value % span := by
  rw [fractionBits, Float.Model.UnpackedFloat.unpackMantissa_def, BitVec.extractLsb'_toNat,
    UInt64.toNat_toBitVec, Nat.shiftRight_eq_div_pow, magnitude, span_eq, signWeight_eq]
  norm_num

theorem magnitude_lt (value : Float) : magnitude value < signWeight :=
  Nat.mod_lt _ (by decide)

theorem exponentBits_eq_neg_one_iff (value : Float) :
    exponentBits value = -1 ↔ infinity ≤ magnitude value := by
  have bounded := magnitude_lt value
  rw [← BitVec.toNat_inj, exponentBits_toNat, infinity_eq, span_eq]
  rw [signWeight_eq] at bounded
  change _ = 2047 ↔ _
  omega

theorem isFinite_iff (value : Float) : value.isFinite = true ↔ magnitude value < infinity := by
  rw [← Nat.not_le, ← exponentBits_eq_neg_one_iff]
  change (Float.Model.UnpackedFloat.unpack .binary64 value.toBits.toBitVec).isFinite = true ↔
    ¬ @Float.Model.UnpackedFloat.unpackExponent .binary64 value.toBits.toBitVec = -1
  unfold Float.Model.UnpackedFloat.unpack
  dsimp only
  split
  · split <;> simp_all [Float.Model.UnpackedFloat.isFinite]
  · split
    · split <;> simp_all [Float.Model.UnpackedFloat.isFinite]
    · simp_all [Float.Model.UnpackedFloat.isFinite]

/-- All doubles beyond infinity are one. -/
theorem eq_undefined {value : Float} (beyond : infinity < magnitude value) :
    value = undefined := by
  have exponent : exponentBits value = -1 :=
    (exponentBits_eq_neg_one_iff value).mpr (Nat.le_of_lt beyond)
  have fraction : fractionBits value ≠ 0 := by
    intro zero
    have none : (fractionBits value).toNat = 0 := by rw [zero]; rfl
    have bounded := magnitude_lt value
    rw [fractionBits_toNat] at none
    rw [infinity_eq] at beyond
    rw [signWeight_eq] at bounded
    rw [span_eq] at none
    omega
  apply Float.toBits_inj.mp
  apply UInt64.toBitVec_inj.mp
  exact value.toModel.valid.eq_packedNaN exponent fraction

/-! ### Significands -/

theorem scale_mul_span_le (magnitude : Nat) : scale magnitude * span ≤ magnitude := by
  unfold scale
  rw [span_eq]
  omega

theorem significand_add (magnitude : Nat) :
    significand magnitude + scale magnitude * span = magnitude :=
  Nat.sub_add_cancel (scale_mul_span_le magnitude)

theorem significand_lt (magnitude : Nat) : significand magnitude < 2 * span := by
  unfold significand scale
  rw [span_eq]
  omega

theorem span_le_significand {magnitude : Nat} (normal : span ≤ magnitude) :
    span ≤ significand magnitude := by
  unfold significand scale
  rw [span_eq] at normal ⊢
  omega

theorem scale_of_lt {magnitude : Nat} (small : magnitude < span) : scale magnitude = 0 := by
  unfold scale
  rw [span_eq] at small ⊢
  omega

theorem log2_lt_of_lt {number bits : Nat} (small : number < 2 ^ (bits + 1)) :
    number.log2 < bits + 1 := by
  by_cases zero : number = 0
  · rw [zero, Nat.log2_zero]
    exact Nat.succ_pos bits
  · exact (Nat.log2_lt zero).mpr small

/-- The spacing about a magnitude is told by the leading bit of its size. -/
theorem log2_units (magnitude : Nat) : (units magnitude).log2 - 52 = scale magnitude := by
  have below := significand_lt magnitude
  by_cases small : magnitude < span
  · have short : units magnitude < 2 ^ 53 := by
      rw [units, scale_of_lt small]
      rw [span_eq] at below
      simpa using below
    have bits : (units magnitude).log2 ≤ 52 := Nat.le_of_lt_succ (log2_lt_of_lt short)
    rw [scale_of_lt small]
    exact Nat.sub_eq_zero_of_le bits
  · have above := span_le_significand (Nat.le_of_not_lt small)
    have spaced : 0 < 2 ^ scale magnitude := Nat.two_pow_pos _
    have least : 2 ^ (52 + scale magnitude) ≤ units magnitude := by
      rw [Nat.pow_add]
      exact Nat.mul_le_mul_right _ above
    have most : units magnitude < 2 ^ (52 + scale magnitude + 1) := by
      rw [Nat.add_right_comm, Nat.pow_add]
      exact Nat.mul_lt_mul_of_pos_right below spaced
    have positive : units magnitude ≠ 0 :=
      Nat.ne_of_gt (Nat.lt_of_lt_of_le (Nat.two_pow_pos _) least)
    rw [(Nat.log2_eq_iff positive).mpr ⟨least, most⟩, Nat.add_sub_cancel_left]

theorem roundedQuotient_mul {denominator : Nat} (positive : 0 < denominator) (quotient : Nat) :
    roundedQuotient (quotient * denominator) denominator = quotient := by
  simp [roundedQuotient, Nat.mul_div_cancel _ positive, positive]

/-- The fraction of a finite magnitude, in any terms, is closest to this magnitude. -/
theorem nearest_of_units {numerator denominator magnitude : Nat} (positive : 0 < denominator)
    (finite : magnitude < infinity)
    (same : numerator * unit = units magnitude * denominator) :
    nearest numerator denominator = magnitude := by
  have spaced : units magnitude * denominator =
      significand magnitude * (denominator * Nat.pow 2 (scale magnitude)) := by
    rw [units, Nat.mul_right_comm, Nat.mul_assoc]
  have apart : 0 < denominator * Nat.pow 2 (scale magnitude) :=
    Nat.mul_pos positive (Nat.two_pow_pos _)
  simp only [nearest]
  rw [same, Nat.mul_div_cancel _ positive, log2_units, spaced, roundedQuotient_mul apart,
    significand_add]
  exact Nat.min_eq_left (Nat.le_of_lt finite)

theorem units_inj {first second : Nat} (firstFinite : first < infinity)
    (secondFinite : second < infinity) (same : units first = units second) : first = second := by
  rw [← nearest_of_units unit_pos firstFinite rfl, same]
  exact nearest_of_units unit_pos secondFinite rfl

theorem units_pos {magnitude : Nat} (positive : 0 < magnitude) : 0 < units magnitude := by
  apply Nat.mul_pos
  · by_cases small : magnitude < span
    · rw [significand, scale_of_lt small]
      omega
    · exact Nat.lt_of_lt_of_le (by decide) (span_le_significand (Nat.le_of_not_lt small))
  · exact Nat.two_pow_pos _

/-! ### Decimals -/

theorem pow_five_mul_pow_two (power : Nat) :
    Nat.pow 5 power * Nat.pow 2 power = Nat.pow 10 power :=
  (Nat.mul_pow 5 2 power).symm

theorem two_pow_le_pow_five (power : Nat) : 2 ^ (2 * power) ≤ Nat.pow 5 power := by
  rw [Nat.pow_mul]
  exact Nat.pow_le_pow_left (by decide) power

/-- Below the point, digits and power may be written apart from their common factor. -/
theorem ofDecimal_negSucc {coefficient power magnitude : Nat} (negative : Bool)
    (large : 3 * (power + 1) ≤ coefficient.log2 + 1077) (finite : magnitude < infinity)
    (same : coefficient * unit = units magnitude * Nat.pow 10 (power + 1)) :
    ofDecimal ⟨negative, coefficient, .negSucc power⟩ = magnitude := by
  change (if coefficient.log2 + 1077 < 3 * (power + 1) then 0
    else nearest coefficient (Nat.pow 10 (power + 1))) = magnitude
  rw [if_neg (Nat.not_lt.mpr large)]
  exact nearest_of_units (Nat.pow_pos (by decide)) finite same

theorem ofDecimal_fives {magnitude places : Nat} (fraction : 0 < places)
    (binary : unit = Nat.pow 2 places) (few : places ≤ 1077) (positive : 0 < magnitude)
    (finite : magnitude < infinity) (negative : Bool) :
    ofDecimal ⟨negative, units magnitude * Nat.pow 5 places, -places⟩ = magnitude := by
  obtain ⟨power, rfl⟩ := Nat.exists_eq_add_of_lt fraction
  rw [Nat.zero_add] at binary few ⊢
  have least : 2 ^ (2 * (power + 1)) ≤ units magnitude * Nat.pow 5 (power + 1) :=
    Nat.le_trans (two_pow_le_pow_five _) (Nat.le_mul_of_pos_left _ (units_pos positive))
  have bits : 2 * (power + 1) ≤ (units magnitude * Nat.pow 5 (power + 1)).log2 := by
    apply (Nat.le_log2 _).mpr least
    exact Nat.ne_of_gt (Nat.lt_of_lt_of_le (Nat.two_pow_pos _) least)
  apply ofDecimal_negSucc negative (by omega) finite
  rw [Nat.mul_assoc, binary, pow_five_mul_pow_two]

theorem ofDecimal_exact {magnitude : Nat} (positive : 0 < magnitude)
    (finite : magnitude < infinity) : ofDecimal (exact magnitude) = magnitude := by
  apply ofDecimal_fives _ unit_eq _ positive finite false <;> decide

theorem ofDecimal_of_onGrid? {magnitude count : Nat} {leading : Int} {decimal : Decimal}
    (found : onGrid? magnitude leading count = some decimal) : ofDecimal decimal = magnitude := by
  simp only [onGrid?] at found
  split at found
  · rename_i lower
    cases found
    exact lower.1
  · split at found
    · rename_i upper
      cases found
      exact upper
    · cases found

/-- The shortest decimal of a finite magnitude is read back as this magnitude. -/
theorem ofDecimal_shortest {magnitude : Nat} (finite : magnitude < infinity) :
    ofDecimal (shortest magnitude) = magnitude := by
  unfold shortest
  by_cases zero : magnitude = 0
  · rw [if_pos zero, zero]
    rfl
  · rw [if_neg zero]
    dsimp only
    cases found : ((List.range 17).map (· + 1)).findSome?
        (onGrid? magnitude (leadingPower (units magnitude) unit)) with
    | none => exact ofDecimal_exact (Nat.pos_of_ne_zero zero) finite
    | some decimal =>
        obtain ⟨count, _, onGrid⟩ := List.exists_of_findSome?_eq_some found
        exact ofDecimal_of_onGrid? onGrid

end DeskCalculator.Binary64
