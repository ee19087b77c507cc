import DeskCalculator.Display.Feedback
import DeskCalculator.Proofs.Rounding

/-! Products with a factor of at most one. A product may get one binary place more by being rounded, but
with such a factor it stays finite. So every channel that doubles can hold has a shade at every strength
that messages are painted with. -/

namespace DeskCalculator

namespace Binary64

open Float.Model (Format UnpackedFloat totalExponent)
open Float.Model.UnpackedFloat

/-! ### Bits that are shifted out -/

/-- The significand, and one more if anything was shifted out of it. -/
def ceiling (extended : ExtendedMantissa) : Nat :=
  extended.mantissa + if extended.roundBit || extended.stickyBit then 1 else 0

theorem roundedMantissa_le_ceiling (extended : ExtendedMantissa) :
    extended.roundedMantissa ≤ ceiling extended := by
  obtain ⟨mantissa, roundBit, stickyBit⟩ := extended
  cases roundBit <;> cases stickyBit <;>
    simp [ExtendedMantissa.roundedMantissa, ExtendedMantissa.accuracy,
      Accuracy.roundToNearestEven, ceiling]
  omega

theorem ceiling_shiftRightOne_le {extended : ExtendedMantissa} {bound : Nat}
    (bounded : ceiling extended ≤ bound * 2) : ceiling extended.shiftRightOne ≤ bound := by
  obtain ⟨mantissa, roundBit, stickyBit⟩ := extended
  rcases Nat.mod_two_eq_zero_or_one mantissa with even | odd
  · cases roundBit <;> cases stickyBit <;>
      simp [ExtendedMantissa.shiftRightOne, ceiling, even] at bounded ⊢ <;> omega
  · cases roundBit <;> cases stickyBit <;>
      simp [ExtendedMantissa.shiftRightOne, ceiling, odd] at bounded ⊢ <;> omega

theorem ceiling_shiftRight_le {extended : ExtendedMantissa} (places : Nat) {bound : Nat}
    (bounded : ceiling extended ≤ bound * 2 ^ places) : ceiling (extended >>> places) ≤ bound := by
  induction places generalizing bound with
  | zero =>
      rw [Nat.pow_zero, Nat.mul_one] at bounded
      exact bounded
  | succ places hypothesis =>
      change ceiling (extended >>> places).shiftRightOne ≤ bound
      apply ceiling_shiftRightOne_le
      apply hypothesis
      rwa [Nat.mul_assoc, ← Nat.pow_succ']

/-! ### Numbers that are packed as finite doubles -/

def maxExponent : Int := 971

def Fits : UnpackedFloat → Prop
  | .zero _ => True
  | .finite _ _ exponent _ => exponent ≤ maxExponent
  | .infinity _ | .notANumber => False

theorem Fits.unpackExponent_pack {number : UnpackedFloat} (fits : Fits number) :
    @unpackExponent .binary64 (pack .binary64 number) ≠ -1 := by
  intro full
  cases number with
  | infinity sign => exact fits
  | notANumber => exact fits
  | zero sign =>
      rw [pack, packedZero, unpackExponent_packComponents] at full
      exact absurd full (by decide)
  | finite sign significand exponent positive =>
      have bounded : exponent ≤ 971 := fits
      have below : ¬ 2 ^ 11 ≤ (exponent + (1023 : Nat) + (52 : Nat)).toNat + 1 := by omega
      change unpackExponent (if 2 ^ 11 ≤ (exponent + (1023 : Nat) + (52 : Nat)).toNat + 1
        then packedInfinity .binary64 sign else if significand.log2 + 1 = 53 then _ else _) = _ at full
      rw [if_neg below] at full
      split at full
      · rw [unpackExponent_packComponents] at full
        have field := congrArg BitVec.toNat full
        change (exponent + (1023 : Nat) + (52 : Nat)).toNat % 2048 = 2047 at field
        omega
      · rw [unpackExponent_packComponents] at full
        exact absurd full (by decide)

/-! ### Rounding -/

/-- How many places a significand is shifted for its exponent to be one of a double. -/
def surplus (significand : Nat) (exponent : Int) : Nat :=
  (Format.binary64.targetExponent (totalExponent significand exponent) - exponent).toNat

theorem surplus_eq (significand : Nat) (exponent : Int) :
    surplus significand exponent =
      (max (significand.log2 + 1 + exponent - (53 : Nat)) (-1074) - exponent).toNat :=
  rfl

theorem shiftToTargetExponent_exact (significand : Nat) (exponent : Int) :
    shiftToTargetExponent .binary64 significand exponent .exact =
      (ExtendedMantissa.mk significand false false >>> surplus significand exponent,
        exponent + surplus significand exponent) :=
  rfl

theorem lt_two_pow_surplus (significand : Nat) (exponent : Int) :
    significand < 2 ^ 53 * 2 ^ surplus significand exponent := by
  rw [← Nat.pow_add]
  refine Nat.lt_of_lt_of_le Nat.lt_log2_self (Nat.pow_le_pow_right (by decide) ?_)
  rw [surplus_eq]
  omega

/-- The exponent rises by no more places than the significand has too many, or to the least one. -/
theorem add_surplus_le {significand places : Nat} (small : significand < 2 ^ (places + 53))
    (exponent : Int) :
    exponent + surplus significand exponent ≤ max (exponent + places) (-1074) := by
  have bits : significand.log2 < places + 53 := log2_lt_of_lt small
  rw [surplus_eq]
  omega

/-- A rounded significand may have one bit too many, as long as the exponent can still rise. -/
theorem add_surplus_le_maxExponent {rounded : Nat} {exponent : Int}
    (fits : exponent ≤ maxExponent) (small : rounded ≤ 2 ^ 53)
    (last : exponent = maxExponent → rounded < 2 ^ 53) :
    exponent + surplus rounded exponent ≤ maxExponent := by
  unfold maxExponent at fits last ⊢
  by_cases carried : rounded = 2 ^ 53
  · have rises := add_surplus_le (show rounded < 2 ^ (1 + 53) by omega) exponent
    have inside : exponent ≠ 971 := fun largest => by
      have := last largest
      omega
    omega
  · have stays := add_surplus_le (show rounded < 2 ^ (0 + 53) by omega) exponent
    omega

theorem fits_roundWithAccuracy (sign : Sign) {significand places : Nat} {exponent : Int}
    (small : significand ≤ (2 ^ 53 - 1) * 2 ^ places) (room : exponent + places ≤ maxExponent) :
    Fits (roundWithAccuracy .binary64 sign significand exponent .exact) := by
  have short : significand < 2 ^ (places + 53) := by
    rw [Nat.pow_add, Nat.mul_comm (2 ^ places)]
    exact Nat.lt_of_le_of_lt small
      (Nat.mul_lt_mul_of_pos_right (by decide) (Nat.two_pow_pos places))
  have raised := add_surplus_le short exponent
  have fits : exponent + surplus significand exponent ≤ maxExponent := by
    unfold maxExponent at room ⊢
    omega
  have bounded (bound : Nat) (most : significand ≤ bound * 2 ^ surplus significand exponent) :
      (ExtendedMantissa.mk significand false false >>>
        surplus significand exponent).roundedMantissa ≤ bound :=
    Nat.le_trans (roundedMantissa_le_ceiling _) (ceiling_shiftRight_le _ most)
  have final := add_surplus_le_maxExponent fits
    (bounded (2 ^ 53) (Nat.le_of_lt (lt_two_pow_surplus significand exponent)))
    fun largest => by
      -- Then nothing but the room was used up, and the significand was small enough for that.
      have used : places ≤ surplus significand exponent := by omega
      have most := Nat.le_trans small
        (Nat.mul_le_mul_left (2 ^ 53 - 1) (Nat.pow_le_pow_right (by decide) used))
      exact Nat.lt_of_le_of_lt (bounded (2 ^ 53 - 1) most) (by decide)
  unfold roundWithAccuracy
  rw [shiftToTargetExponent_exact]
  dsimp only
  rw [shiftToTargetExponent_exact]
  dsimp only
  split
  · exact trivial
  · exact final

/-! ### Products -/

def atMostOne : UnpackedFloat → Bool
  | .zero _ => true
  | .finite _ significand exponent _ => exponent ≤ 0 && significand ≤ 2 ^ (-exponent).toNat
  | .infinity _ | .notANumber => false

theorem unpack_finite_bounds {value : Float} {sign : Sign} {significand : Nat} {exponent : Int}
    {positive : 0 < significand}
    (unpacked : value.toModel.unpack = .finite sign significand exponent positive) :
    significand ≤ 2 ^ 53 - 1 ∧ exponent ≤ maxExponent := by
  unfold Float.Model.unpack unpack at unpacked
  dsimp only at unpacked
  split at unpacked
  · split at unpacked <;> cases unpacked
  · rename_i notFull
    have fraction : (@unpackMantissa .binary64 value.toModel.toBits.toBitVec).toNat < 2 ^ 52 :=
      BitVec.isLt _
    have field : (@unpackExponent .binary64 value.toModel.toBits.toBitVec).toNat < 2048 :=
      BitVec.isLt _
    have notLast : (@unpackExponent .binary64 value.toModel.toBits.toBitVec).toNat ≠ 2047 :=
      fun last => notFull (BitVec.eq_of_toNat_eq last)
    have bias : ((Format.binary64.exponentBias : Nat) : Int) = 1023 := rfl
    unfold maxExponent
    split at unpacked
    · rename_i zero
      split at unpacked
      · cases unpacked
      · cases unpacked
        rw [zero, bias]
        exact ⟨by omega, by decide⟩
    · have normal : (1#1 ++ @unpackMantissa .binary64 value.toModel.toBits.toBitVec).toNat < 2 ^ 53 :=
        BitVec.isLt _
      cases unpacked
      rw [bias]
      omega

theorem isFinite_mul {value factor : Float} (finite : value.isFinite = true)
    (small : atMostOne factor.toModel.unpack = true) : (value * factor).isFinite = true := by
  have fits : Fits (mul .binary64 value.toModel.unpack factor.toModel.unpack) := by
    change value.toModel.unpack.isFinite = true at finite
    cases unpacked : value.toModel.unpack with
    | infinity sign =>
        rw [unpacked] at finite
        cases finite
    | notANumber =>
        rw [unpacked] at finite
        cases finite
    | zero sign =>
        cases other : factor.toModel.unpack <;> rw [other] at small
        case zero => exact trivial
        case finite => exact trivial
        all_goals cases small
    | finite sign significand exponent positive =>
        cases other : factor.toModel.unpack <;> rw [other] at small
        case zero => exact trivial
        case finite otherSign otherSignificand otherExponent otherPositive =>
          obtain ⟨short, bounded⟩ := unpack_finite_bounds unpacked
          obtain ⟨below, weak⟩ := Bool.and_eq_true_iff.mp small
          have below := of_decide_eq_true below
          exact fits_roundWithAccuracy _ (Nat.mul_le_mul short (of_decide_eq_true weak)) (by omega)
        all_goals cases small
  rw [isFinite_iff, ← Nat.not_le, ← exponentBits_eq_neg_one_iff]
  exact fits.unpackExponent_pack

theorem isFinite_of_ofInt? {number : Int} {value : Float} (held : ofInt? number = some value) :
    value.isFinite = true := by
  unfold ofInt? at held
  dsimp only at held
  split at held
  · rename_i finite
    cases held
    rw [isFinite_iff, magnitude_toFloat _ (Nat.le_of_lt finite)]
    exact finite
  · cases held

theorem exists_truncate? {value : Float} (finite : value.isFinite = true) :
    ∃ number, truncate? value = some number := by
  rw [isFinite_iff] at finite
  exact ⟨_, if_pos finite⟩

end Binary64

/-! ### Shades of colours -/

def Color.Representable (color : Color) : Prop :=
  ∀ channel ∈ color, channel.natAbs < Binary64.overflow

instance (color : Color) : Decidable color.Representable :=
  inferInstanceAs (Decidable (∀ channel ∈ color, channel.natAbs < Binary64.overflow))

namespace Feedback

theorem atMostOne_fade (remaining : Nat) :
    Binary64.atMostOne (fade remaining).toModel.unpack = true := by
  have full : Binary64.atMostOne (1 : Float).toModel.unpack = true := by decide +kernel
  have partly : ∀ remaining < 20,
      Binary64.atMostOne (Float.ofNat remaining / 20).toModel.unpack = true := by
    decide +kernel
  exact @fade_of_parts (fun strength => Binary64.atMostOne strength.toModel.unpack = true)
    full partly remaining

/-- What is faded is the double of the channel. -/
theorem faded_of_ofInt? {strength : Float} {channel : Int} {value : Option Float}
    (held : Binary64.ofInt? channel = value) :
    faded strength channel =
      (value.bind fun double => Binary64.truncate? (double * strength)).elim
        (.error .tooLarge) .ok := by
  -- Unfolded before it is applied, as the kernel would else compute what the match looks at.
  generalize unfolded : faded = function
  delta faded at unfolded
  rw [← unfolded]
  beta_reduce
  rw [held]
  cases value.bind fun double => Binary64.truncate? (double * strength) <;> rfl

theorem exists_faded (remaining : Nat) {channel : Int} (held : channel.natAbs < Binary64.overflow) :
    ∃ shade, faded (fade remaining) channel = .ok shade := by
  rw [← Binary64.ofInt?_isSome_iff] at held
  obtain ⟨value, double⟩ := Option.isSome_iff_exists.mp held
  obtain ⟨shade, truncated⟩ := Binary64.exists_truncate?
    (Binary64.isFinite_mul (Binary64.isFinite_of_ofInt? double) (atMostOne_fade remaining))
  refine ⟨shade, ?_⟩
  rw [faded_of_ofInt? double, Option.bind_some, truncated, Option.elim_some]

theorem faded_of_overflow (strength : Float) {channel : Int}
    (large : Binary64.overflow ≤ channel.natAbs) :
    faded strength channel = .error .tooLarge := by
  rw [← Nat.not_lt, ← Binary64.ofInt?_isSome_iff, Option.not_isSome_iff_eq_none] at large
  rw [faded_of_ofInt? large, Option.bind_none, Option.elim_none]

theorem fadedColor_of_representable (remaining : Nat) {color : Color} (held : color.Representable) :
    ∃ shades, fadedColor (fade remaining) color = .ok shades := by
  unfold fadedColor
  induction color with
  | nil => exact ⟨[], rfl⟩
  | cons channel color hypothesis =>
      obtain ⟨first, own⟩ := exists_faded remaining (held channel List.mem_cons_self)
      obtain ⟨rest, others⟩ := hypothesis fun other member =>
        held other (List.mem_cons_of_mem channel member)
      refine ⟨first :: rest, ?_⟩
      rw [List.mapM_cons, own, others]
      rfl

theorem fadedColor_of_not_representable (remaining : Nat) {color : Color}
    (large : ¬ color.Representable) : fadedColor (fade remaining) color = .error .tooLarge := by
  unfold fadedColor
  induction color with
  | nil => exact absurd (fun _ member => absurd member List.not_mem_nil) large
  | cons channel color hypothesis =>
      rw [List.mapM_cons]
      by_cases held : channel.natAbs < Binary64.overflow
      · obtain ⟨first, own⟩ := exists_faded remaining held
        have others := hypothesis fun rest => large (List.forall_mem_cons.mpr ⟨held, rest⟩)
        rw [own, others]
        rfl
      · rw [faded_of_overflow _ (Nat.le_of_not_lt held)]
        rfl

end Feedback
end DeskCalculator
