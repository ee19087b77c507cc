import Mathlib
import DeskCalculator.Proofs.NearestDouble

/-! Rounding of fractions. The magnitude that a fraction is rounded to is closest to it among all
magnitudes, and even where another one is equally close. It is finite exactly if the fraction is below the
middle between the largest finite magnitude and the next one. -/

namespace DeskCalculator.Binary64

/-- The middle between the largest finite double and the next power of two. -/
def overflow : Nat := Nat.pow 2 1024 - Nat.pow 2 970

/-! ### Quotients -/

theorem roundedQuotient_bounds {denominator : Nat} (positive : 0 < denominator) (numerator : Nat) :
    let rounded := roundedQuotient numerator denominator * denominator
    2 * rounded ≤ 2 * numerator + denominator ∧ 2 * numerator ≤ 2 * rounded + denominator ∧
    (2 * rounded = 2 * numerator + denominator ∨ 2 * numerator = 2 * rounded + denominator →
      roundedQuotient numerator denominator % 2 = 0) := by
  intro rounded
  have divided : numerator / denominator * denominator + numerator % denominator = numerator :=
    Nat.div_add_mod' numerator denominator
  have rest := Nat.mod_lt numerator positive
  have next : (numerator / denominator + 1) * denominator =
      numerator / denominator * denominator + denominator := Nat.succ_mul _ _
  have cases : (rounded = numerator / denominator * denominator ∧
        2 * (numerator % denominator) < denominator) ∨
      (rounded = numerator / denominator * denominator + denominator ∧
        denominator < 2 * (numerator % denominator)) ∨
      (2 * (numerator % denominator) = denominator ∧
        (rounded = numerator / denominator * denominator ∨
          rounded = numerator / denominator * denominator + denominator) ∧
        roundedQuotient numerator denominator % 2 = 0) := by
    by_cases below : 2 * (numerator % denominator) < denominator
    · left
      simp only [rounded, roundedQuotient, if_pos below]
      exact ⟨trivial, below⟩
    · by_cases above : denominator < 2 * (numerator % denominator)
      · right; left
        simp only [rounded, roundedQuotient, if_neg below, if_pos above]
        exact ⟨next, above⟩
      · right; right
        simp only [rounded, roundedQuotient, if_neg below, if_neg above]
        refine ⟨by omega, ?_, by omega⟩
        rcases Nat.mod_two_eq_zero_or_one (numerator / denominator) with even | odd
        · exact .inl (by rw [even, Nat.add_zero])
        · exact .inr (by rw [odd, next])
  omega

theorem roundedQuotient_near (numerator denominator : Nat) :
    numerator / denominator ≤ roundedQuotient numerator denominator ∧
      roundedQuotient numerator denominator ≤ numerator / denominator + 1 := by
  unfold roundedQuotient
  dsimp only
  split
  · omega
  · split <;> omega

/-- No multiple of the denominator is closer than the one with the rounded quotient. -/
theorem roundedQuotient_closest {denominator : Nat} (positive : 0 < denominator)
    (numerator other : Nat) :
    Nat.dist (roundedQuotient numerator denominator * denominator) numerator ≤
      Nat.dist (other * denominator) numerator ∧
    (Nat.dist (roundedQuotient numerator denominator * denominator) numerator =
        Nat.dist (other * denominator) numerator →
      other ≠ roundedQuotient numerator denominator →
      roundedQuotient numerator denominator % 2 = 0) := by
  have bounds := roundedQuotient_bounds positive numerator
  generalize roundedQuotient numerator denominator = quotient at bounds ⊢
  have apart : other = quotient ∨ other * denominator + denominator ≤ quotient * denominator ∨
      quotient * denominator + denominator ≤ other * denominator := by
    rcases Nat.lt_trichotomy other quotient with less | same | more
    · exact .inr (.inl (Nat.succ_mul other denominator ▸ Nat.mul_le_mul_right _ less))
    · exact .inl same
    · exact .inr (.inr (Nat.succ_mul quotient denominator ▸ Nat.mul_le_mul_right _ more))
  rcases apart with rfl | less | more
  · exact ⟨Nat.le_refl _, fun _ different => absurd rfl different⟩
  · simp only [Nat.dist] at bounds ⊢
    omega
  · simp only [Nat.dist] at bounds ⊢
    omega

/-! ### Sizes of magnitudes -/

theorem units_add_mul_span {quotient shift : Nat} (small : quotient ≤ 2 * span)
    (large : shift = 0 ∨ span ≤ quotient) :
    units (quotient + shift * span) = quotient * 2 ^ shift := by
  rw [span_eq] at small large
  by_cases full : quotient = 2 * 4503599627370496
  · -- The quotient has got one bit more than a significand has, so the spacing doubles.
    have scaled : scale (quotient + shift * span) = shift + 1 := by
      rw [scale, span_eq]
      omega
    have rest : significand (quotient + shift * span) = 4503599627370496 := by
      rw [significand, scaled, span_eq]
      omega
    rw [units, scaled, rest, full, Nat.pow_eq, Nat.pow_succ]
    ring
  · have scaled : scale (quotient + shift * span) = shift := by
      rw [scale, span_eq]
      omega
    have rest : significand (quotient + shift * span) = quotient := by
      rw [significand, scaled]
      omega
    rw [units, scaled, rest]
    rfl

/-- Magnitudes that are spaced at least so far are multiples of this spacing. -/
theorem units_of_le_scale {magnitude shift : Nat} (coarse : shift ≤ scale magnitude) :
    ∃ count, units magnitude = count * 2 ^ shift := by
  refine ⟨significand magnitude * 2 ^ (scale magnitude - shift), ?_⟩
  rw [Nat.mul_assoc, ← Nat.pow_add, Nat.sub_add_cancel coarse]
  rfl

theorem units_lt_of_scale_lt {magnitude shift : Nat} (fine : scale magnitude < shift) :
    units magnitude < span * 2 ^ shift := by
  have below := significand_lt magnitude
  calc units magnitude < 2 * span * 2 ^ scale magnitude :=
        Nat.mul_lt_mul_of_pos_right below (Nat.two_pow_pos _)
    _ = span * 2 ^ (scale magnitude + 1) := by rw [Nat.pow_succ]; ring
    _ ≤ span * 2 ^ shift := Nat.mul_le_mul_left _ (Nat.pow_le_pow_right (by decide) fine)

theorem units_strictMono : StrictMono units := by
  apply strictMono_nat_of_lt_succ
  intro magnitude
  have steps : (scale (magnitude + 1) = scale magnitude ∧
        significand (magnitude + 1) = significand magnitude + 1) ∨
      (scale (magnitude + 1) = scale magnitude + 1 ∧ significand (magnitude + 1) = span ∧
        significand magnitude + 1 = 2 * span) := by
    simp only [significand, scale, span_eq]
    omega
  unfold units
  rcases steps with ⟨same, next⟩ | ⟨wider, first, last⟩
  · rw [same, next]
    exact Nat.mul_lt_mul_of_pos_right (Nat.lt_succ_self _) (Nat.two_pow_pos _)
  · have below : significand magnitude < 2 * span := last ▸ Nat.lt_succ_self _
    rw [wider, first]
    calc significand magnitude * Nat.pow 2 (scale magnitude)
        < 2 * span * Nat.pow 2 (scale magnitude) :=
          Nat.mul_lt_mul_of_pos_right below (Nat.two_pow_pos _)
      _ = span * Nat.pow 2 (scale magnitude + 1) := by
          simp only [Nat.pow_eq, Nat.pow_succ]
          ring

theorem units_infinity_middle : units (infinity - 1) + units infinity = 2 * (overflow * unit) := by
  decide +kernel

/-! ### The closest magnitude -/

/-- The magnitude that a fraction would be rounded to if there were no largest one. -/
def rounded (numerator denominator : Nat) : Nat :=
  let shift := (numerator * unit / denominator).log2 - 52
  roundedQuotient (numerator * unit) (denominator * 2 ^ shift) + shift * span

theorem nearest_eq_min (numerator denominator : Nat) :
    nearest numerator denominator = min (rounded numerator denominator) infinity :=
  rfl

section
variable {denominator : Nat} (positive : 0 < denominator) (numerator : Nat)
include positive

/-- A fraction is rounded to a multiple of the spacing that its leading bit calls for. -/
theorem exists_shift_rounded :
    ∃ shift, let quotient := roundedQuotient (numerator * unit) (denominator * 2 ^ shift)
      rounded numerator denominator = quotient + shift * span ∧
      units (rounded numerator denominator) = quotient * 2 ^ shift ∧
      (shift = 0 ∨ span * (denominator * 2 ^ shift) ≤ numerator * unit) := by
  unfold rounded
  generalize numerator * unit = size
  refine ⟨(size / denominator).log2 - 52, ?_⟩
  have bits : (size / denominator).log2 - 52 = 0 ∨
      (size / denominator).log2 = 52 + ((size / denominator).log2 - 52) := by omega
  have most : (size / denominator).log2 + 1 ≤ 53 + ((size / denominator).log2 - 52) := by omega
  generalize (size / denominator).log2 - 52 = shift at bits most ⊢
  dsimp only
  have spaced : 0 < denominator * 2 ^ shift := Nat.mul_pos positive (Nat.two_pow_pos _)
  have below : size / (denominator * 2 ^ shift) < 2 * span := by
    have short : size / denominator < 2 ^ (53 + shift) :=
      Nat.lt_of_lt_of_le Nat.lt_log2_self (Nat.pow_le_pow_right (by decide) most)
    rw [Nat.div_lt_iff_lt_mul positive] at short
    have total : 2 ^ (53 + shift) * denominator = 2 * span * (denominator * 2 ^ shift) := by
      rw [span_eq, Nat.pow_add]
      ring
    exact (Nat.div_lt_iff_lt_mul spaced).mpr (total ▸ short)
  have large : shift = 0 ∨ span * (denominator * 2 ^ shift) ≤ size := by
    refine bits.imp_right fun log => ?_
    have nonzero : size / denominator ≠ 0 := by
      intro zero
      rw [zero, Nat.log2_zero] at log
      omega
    have long := Nat.log2_self_le nonzero
    rw [log, Nat.le_div_iff_mul_le positive] at long
    have total : 2 ^ (52 + shift) * denominator = span * (denominator * 2 ^ shift) := by
      rw [span_eq, Nat.pow_add]
      ring
    exact total ▸ long
  have quotient := roundedQuotient_near size (denominator * 2 ^ shift)
  refine ⟨rfl, units_add_mul_span (by omega) (large.imp_right fun fits => ?_), large⟩
  exact Nat.le_trans ((Nat.le_div_iff_mul_le spaced).mpr fits) quotient.1

/-- No magnitude is closer to the fraction than the one it is rounded to, and this one is even if another
one is as close. -/
theorem rounded_closest (other : Nat) :
    Nat.dist (units (rounded numerator denominator) * denominator) (numerator * unit) ≤
      Nat.dist (units other * denominator) (numerator * unit) ∧
    (Nat.dist (units (rounded numerator denominator) * denominator) (numerator * unit) =
        Nat.dist (units other * denominator) (numerator * unit) →
      other ≠ rounded numerator denominator → rounded numerator denominator % 2 = 0) := by
  obtain ⟨shift, sum, size, large⟩ := exists_shift_rounded positive numerator
  have spaced : 0 < denominator * 2 ^ shift := Nat.mul_pos positive (Nat.two_pow_pos _)
  have own : units (rounded numerator denominator) * denominator =
      roundedQuotient (numerator * unit) (denominator * 2 ^ shift) *
        (denominator * 2 ^ shift) := by
    rw [size, Nat.mul_assoc, Nat.mul_comm (2 ^ shift)]
  rw [own]
  rcases Nat.lt_or_ge (scale other) shift with fine | coarse
  · -- A finer magnitude lies below all that are spaced as far as the rounded one.
    have fits := large.resolve_left (by omega)
    have lower : units other * denominator < span * (denominator * 2 ^ shift) := by
      have below := Nat.mul_lt_mul_of_pos_right (units_lt_of_scale_lt fine) positive
      rwa [Nat.mul_assoc, Nat.mul_comm (2 ^ shift)] at below
    have closest := (roundedQuotient_closest spaced (numerator * unit) span).1
    simp only [Nat.dist] at closest ⊢
    omega
  · obtain ⟨count, multiple⟩ := units_of_le_scale coarse
    have theirs : units other * denominator = count * (denominator * 2 ^ shift) := by
      rw [multiple, Nat.mul_assoc, Nat.mul_comm (2 ^ shift)]
    obtain ⟨closest, even⟩ := roundedQuotient_closest spaced (numerator * unit) count
    rw [theirs]
    refine ⟨closest, fun tie different => ?_⟩
    have elsewhere : count ≠ roundedQuotient (numerator * unit) (denominator * 2 ^ shift) := by
      rintro rfl
      exact different (units_strictMono.injective (multiple.trans size.symm))
    have spanEven := span_eq
    rw [sum, spanEven]
    have quotientEven := even tie elsewhere
    omega

/-- What is too large for a finite magnitude. -/
theorem nearest_lt_infinity_iff :
    nearest numerator denominator < infinity ↔ numerator < overflow * denominator := by
  have threshold : numerator < overflow * denominator ↔
      2 * (numerator * unit) < (units (infinity - 1) + units infinity) * denominator := by
    rw [units_infinity_middle, Nat.mul_assoc, Nat.mul_lt_mul_left (by decide),
      Nat.mul_right_comm, Nat.mul_lt_mul_right unit_pos]
  have last : infinity - 1 < infinity := by decide
  rw [nearest_eq_min, min_lt_iff, or_iff_left (Nat.lt_irrefl _), threshold, Nat.add_mul]
  constructor
  · intro finite
    have size := Nat.mul_le_mul_right denominator
      (units_strictMono.monotone (Nat.le_sub_one_of_lt finite))
    have larger := Nat.mul_lt_mul_of_pos_right (units_strictMono last) positive
    obtain ⟨closest, even⟩ := rounded_closest positive numerator infinity
    have largest : units (rounded numerator denominator) * denominator =
        units (infinity - 1) * denominator → rounded numerator denominator = infinity - 1 := by
      intro same
      exact units_strictMono.injective (Nat.eq_of_mul_eq_mul_right positive same)
    -- The largest finite magnitude is odd, so it gets no fraction that is as close to the next one.
    have odd : (infinity - 1) % 2 = 1 := by decide
    have different : infinity ≠ rounded numerator denominator := Nat.ne_of_gt finite
    by_contra reached
    have same : units (rounded numerator denominator) * denominator =
        units (infinity - 1) * denominator := by
      simp only [Nat.dist] at closest
      omega
    have evenly := even (by simp only [Nat.dist] at closest ⊢; omega) different
    rw [largest same] at evenly
    omega
  · intro below
    by_contra infinite
    have size := Nat.mul_le_mul_right denominator
      (units_strictMono.monotone (Nat.le_of_not_lt infinite))
    have larger := Nat.mul_lt_mul_of_pos_right (units_strictMono last) positive
    have closest := (rounded_closest positive numerator (infinity - 1)).1
    simp only [Nat.dist] at closest
    omega

end

/-! ### Doubles of given magnitudes -/

theorem unpackExponent_toNat (bits : UInt64) :
    (@Float.Model.UnpackedFloat.unpackExponent .binary64 bits.toBitVec).toNat =
      bits.toNat % signWeight / span := by
  rw [Float.Model.UnpackedFloat.unpackExponent_def, BitVec.extractLsb'_toNat,
    UInt64.toNat_toBitVec, Nat.shiftRight_eq_div_pow, span_eq, signWeight_eq]
  norm_num
  omega

theorem unpackMantissa_toNat (bits : UInt64) :
    (@Float.Model.UnpackedFloat.unpackMantissa .binary64 bits.toBitVec).toNat =
      bits.toNat % span := by
  rw [Float.Model.UnpackedFloat.unpackMantissa_def, BitVec.extractLsb'_toNat,
    UInt64.toNat_toBitVec, Nat.shiftRight_eq_div_pow, span_eq]
  norm_num

/-- Bits that encode a finite double or an infinity are the bits of this double. -/
theorem toBits_ofBits {bits : UInt64} (bounded : bits.toNat % signWeight ≤ infinity) :
    (Float.ofBits bits).toBits = bits := by
  have valid : Float.Model.Format.binary64.Valid bits.toBitVec := by
    refine ⟨fun exponent fraction => absurd ?_ fraction⟩
    have full := congrArg BitVec.toNat exponent
    rw [unpackExponent_toNat] at full
    change _ = 2047 at full
    apply BitVec.eq_of_toNat_eq
    rw [unpackMantissa_toNat]
    rw [infinity_eq, signWeight_eq] at bounded
    rw [span_eq, signWeight_eq] at full
    rw [span_eq]
    change _ = 0
    omega
  exact congrArg Float.toBits (Float.ofBits_toBits ⟨⟨bits, valid⟩⟩)

section
variable (negative : Bool) {size : Nat} (bounded : size ≤ infinity)
include bounded

theorem toNat_toBits_toFloat :
    (toFloat negative size).toBits.toNat = if negative then size + signWeight else size := by
  have small : (if negative then size + signWeight else size) < 2 ^ 64 := by
    rw [infinity_eq] at bounded
    rw [signWeight_eq]
    split <;> omega
  have whole : (UInt64.ofNat (if negative then size + signWeight else size)).toNat =
      if negative then size + signWeight else size := UInt64.toNat_ofNat_of_lt' small
  rw [toFloat, toBits_ofBits, whole]
  rw [whole]
  rw [infinity_eq] at bounded ⊢
  rw [signWeight_eq]
  split <;> omega

theorem magnitude_toFloat : magnitude (toFloat negative size) = size := by
  rw [magnitude, toNat_toBits_toFloat negative bounded]
  rw [infinity_eq] at bounded
  rw [signWeight_eq]
  split <;> omega

theorem isNegative_toFloat : isNegative (toFloat negative size) = negative := by
  rw [isNegative, toNat_toBits_toFloat negative bounded]
  rw [infinity_eq] at bounded
  rw [signWeight_eq]
  cases negative with
  | false =>
      rw [if_neg Bool.false_ne_true]
      exact decide_eq_false (by omega)
  | true =>
      rw [if_pos rfl]
      exact decide_eq_true (Nat.le_add_left _ _)

theorem finite?_toFloat : finite? (some (toFloat negative size)) =
    if size < infinity then some (toFloat negative size) else none := by
  have finite := isFinite_iff (toFloat negative size)
  rw [magnitude_toFloat negative bounded] at finite
  by_cases small : size < infinity
  · rw [finite?, Option.filter_some, if_pos (finite.mpr small), if_pos small]
  · rw [finite?, Option.filter_some, if_neg (fun isFinite => small (finite.mp isFinite)),
      if_neg small]

end

/-! ### The closest double -/

def size (magnitude : Nat) : ℚ :=
  units magnitude / unit

def signed (negative : Bool) (number : ℚ) : ℚ :=
  if negative then -number else number

def toRat (value : Float) : ℚ :=
  signed (isNegative value) (size (magnitude value))

/-- A finite double is closest to a number if no other is closer, and its magnitude is even if one that
stands for another number is as close. -/
structure Closest (number : ℚ) (value : Float) : Prop where
  finite : value.isFinite = true
  near : ∀ other : Float, other.isFinite = true → |toRat value - number| ≤ |toRat other - number|
  even : ∀ other : Float, other.isFinite = true → toRat other ≠ toRat value →
    |toRat value - number| = |toRat other - number| → magnitude value % 2 = 0

theorem size_nonneg (magnitude : Nat) : 0 ≤ size magnitude :=
  div_nonneg (Nat.cast_nonneg _) (Nat.cast_nonneg _)

theorem size_zero : size 0 = 0 := by
  have none : units 0 = 0 := rfl
  rw [size, none, Nat.cast_zero, zero_div]

theorem abs_signed_sub (negative : Bool) (first second : ℚ) :
    |signed negative first - signed negative second| = |first - second| := by
  cases negative with
  | false => rfl
  | true =>
      change |-first - -second| = _
      rw [neg_sub_neg, abs_sub_comm]

theorem abs_signed_sub_not (negative : Bool) (first second : ℚ) :
    |signed (!negative) first - signed negative second| = |first + second| := by
  cases negative with
  | false =>
      change |-first - second| = _
      rw [← neg_add', abs_neg]
  | true =>
      change |first - -second| = _
      rw [sub_neg_eq_add]

theorem cast_dist (first second : Nat) :
    (Nat.dist first second : ℚ) = |(first : ℚ) - second| := by
  rcases Nat.le_total first second with below | above
  · rw [Nat.dist_eq_sub_of_le below, Nat.cast_sub below, abs_sub_comm, abs_of_nonneg]
    exact sub_nonneg.mpr (Nat.cast_le.mpr below)
  · rw [Nat.dist_eq_sub_of_le_right above, Nat.cast_sub above, abs_of_nonneg]
    exact sub_nonneg.mpr (Nat.cast_le.mpr above)

section
variable {denominator : Nat} (positive : 0 < denominator) (numerator : Nat)
include positive

theorem abs_size_sub (magnitude : Nat) :
    |size magnitude - numerator / denominator| =
      Nat.dist (units magnitude * denominator) (numerator * unit) / (unit * denominator) := by
  have unitPositive : (0 : ℚ) < unit := Nat.cast_pos.mpr unit_pos
  have denominatorPositive : (0 : ℚ) < denominator := Nat.cast_pos.mpr positive
  have common : size magnitude - numerator / denominator =
      (units magnitude * denominator - numerator * unit) / (unit * denominator) := by
    rw [size, div_sub_div _ _ (ne_of_gt unitPositive) (ne_of_gt denominatorPositive),
      mul_comm (unit : ℚ) numerator]
  rw [common, abs_div, abs_of_pos (mul_pos unitPositive denominatorPositive), cast_dist,
    Nat.cast_mul, Nat.cast_mul]

theorem size_rounded_closest (other : Nat) :
    |size (rounded numerator denominator) - numerator / denominator| ≤
      |size other - numerator / denominator| ∧
    (|size (rounded numerator denominator) - numerator / denominator| =
        |size other - numerator / denominator| →
      other ≠ rounded numerator denominator → rounded numerator denominator % 2 = 0) := by
  obtain ⟨closest, even⟩ := rounded_closest positive numerator other
  have scalePositive : (0 : ℚ) < unit * denominator :=
    mul_pos (Nat.cast_pos.mpr unit_pos) (Nat.cast_pos.mpr positive)
  rw [abs_size_sub positive, abs_size_sub positive]
  constructor
  · exact div_le_div_of_nonneg_right (Nat.cast_le.mpr closest) (le_of_lt scalePositive)
  · intro tie
    exact even (Nat.cast_injective ((div_left_inj' (ne_of_gt scalePositive)).mp tie))

/-- A fraction that is not too large is rounded to the double that is closest to it. -/
theorem closest_toFloat (negative : Bool) (finite : nearest numerator denominator < infinity) :
    Closest (signed negative (numerator / denominator))
        (toFloat negative (nearest numerator denominator)) ∧
      isNegative (toFloat negative (nearest numerator denominator)) = negative := by
  have unbounded : nearest numerator denominator = rounded numerator denominator := by
    rw [nearest_eq_min] at finite ⊢
    exact min_eq_left (by omega)
  have closest := size_rounded_closest positive numerator
  have fraction : (0 : ℚ) ≤ numerator / denominator :=
    div_nonneg (Nat.cast_nonneg _) (Nat.cast_nonneg _)
  have sign := isNegative_toFloat negative (Nat.le_of_lt finite)
  have ownMagnitude := magnitude_toFloat negative (Nat.le_of_lt finite)
  have own : toRat (toFloat negative (nearest numerator denominator)) =
      signed negative (size (nearest numerator denominator)) := by
    rw [toRat, sign, ownMagnitude]
  have distance : |toRat (toFloat negative (nearest numerator denominator)) -
      signed negative (numerator / denominator)| =
      |size (nearest numerator denominator) - numerator / denominator| := by
    rw [own, abs_signed_sub]
  rw [← unbounded] at closest
  generalize (numerator : ℚ) / denominator = quotient at closest fraction distance ⊢
  refine ⟨⟨(isFinite_iff _).mpr (by rw [ownMagnitude]; exact finite), ?_, ?_⟩, sign⟩
  · intro other _
    rw [distance]
    by_cases same : isNegative other = negative
    · rw [toRat, same, abs_signed_sub]
      exact (closest (magnitude other)).1
    · -- A double of the other sign is no closer than zero is.
      have zero := (closest 0).1
      have otherSize := size_nonneg (magnitude other)
      rw [toRat, Bool.eq_not.mpr same, abs_signed_sub_not,
        abs_of_nonneg (add_nonneg otherSize fraction)]
      rw [size_zero, zero_sub, abs_neg, abs_of_nonneg fraction] at zero
      linarith
  · intro other _ different tie
    rw [ownMagnitude]
    rw [distance] at tie
    by_cases same : isNegative other = negative
    · rw [toRat, same, abs_signed_sub] at tie
      refine (closest (magnitude other)).2 tie fun equal => different ?_
      rw [own, toRat, same, equal]
    · have zero := closest 0
      have otherSize := size_nonneg (magnitude other)
      rw [size_zero, zero_sub, abs_neg, abs_of_nonneg fraction] at zero
      rw [toRat, Bool.eq_not.mpr same, abs_signed_sub_not,
        abs_of_nonneg (add_nonneg otherSize fraction)] at tie
      have none : size (magnitude other) = 0 := by
        linarith [zero.1]
      refine zero.2 (by linarith) fun equal => different ?_
      rw [own, toRat, none, ← equal, size_zero]
      cases isNegative other <;> cases negative <;> simp [signed]

end

/-! ### Decimals and whole numbers -/

theorem nearest_of_tiny {numerator denominator : Nat}
    (tiny : 2 * (numerator * unit) < denominator) : nearest numerator denominator = 0 := by
  have positive : 0 < denominator := by omega
  have none : numerator * unit / denominator = 0 := Nat.div_eq_of_lt (by omega)
  have rest : numerator * unit % denominator = numerator * unit := Nat.mod_eq_of_lt (by omega)
  rw [nearest_eq_min, rounded, none, Nat.log2_zero, Nat.zero_sub, Nat.pow_zero, Nat.mul_one,
    Nat.zero_mul, roundedQuotient, none, rest, if_pos tiny]
  rfl

theorem tiny_of_log2 {coefficient bits power : Nat}
    (small : coefficient.log2 + 1 + bits < 3 * power) :
    2 * (coefficient * Nat.pow 2 bits) < 10 ^ power :=
  calc 2 * (coefficient * Nat.pow 2 bits)
      < 2 * (2 ^ (coefficient.log2 + 1) * 2 ^ bits) :=
        Nat.mul_lt_mul_of_pos_left
          (Nat.mul_lt_mul_of_pos_right Nat.lt_log2_self (Nat.two_pow_pos bits)) (by decide)
    _ = 2 ^ (coefficient.log2 + 1 + bits + 1) := by rw [← Nat.pow_add, ← Nat.pow_succ']
    _ ≤ 2 ^ (3 * power) := Nat.pow_le_pow_right (by decide) small
    _ = 8 ^ power := Nat.pow_mul 2 3 power
    _ ≤ 10 ^ power := Nat.pow_le_pow_left (by decide) power

/-- A decimal without an exponent is rounded as a fraction, however many digits it has. -/
theorem ofDecimal_places (negative : Bool) (coefficient places : Nat) :
    ofDecimal ⟨negative, coefficient, -(places : Int)⟩ = nearest coefficient (10 ^ places) := by
  cases places with
  | zero =>
      change (if coefficient = 0 then 0 else if 310 < 0 then infinity
        else nearest (coefficient * Nat.pow 10 0) 1) = nearest coefficient 1
      by_cases zero : coefficient = 0
      · rw [if_pos zero, zero]
        exact (nearest_of_tiny (by rw [Nat.zero_mul]; exact Nat.one_pos)).symm
      · rw [if_neg zero, if_neg (by decide), Nat.pow_eq, Nat.pow_zero, Nat.mul_one]
  | succ power =>
      change (if coefficient.log2 + 1077 < 3 * (power + 1) then 0
        else nearest coefficient (Nat.pow 10 (power + 1))) = nearest coefficient (10 ^ (power + 1))
      by_cases small : coefficient.log2 + 1077 < 3 * (power + 1)
      · rw [if_pos small]
        have total : coefficient.log2 + 1 + 1074 < 3 * (power + 1) := by omega
        refine (nearest_of_tiny ?_).symm
        rw [unit_eq]
        generalize 1074 = bits at total ⊢
        exact tiny_of_log2 total
      · rw [if_neg small, Nat.pow_eq]

theorem ofInt?_isSome_iff (number : Int) :
    (ofInt? number).isSome = true ↔ number.natAbs < overflow := by
  have finite := nearest_lt_infinity_iff Nat.one_pos number.natAbs
  rw [Nat.mul_one] at finite
  rw [← finite, ofInt?]
  split
  · rename_i below
    exact iff_of_true rfl below
  · rename_i above
    exact iff_of_false Bool.false_ne_true above

end DeskCalculator.Binary64
