import Mathlib
namespace DigGossip
namespace Foundations

open Float.Model

/-!
# Whole numbers as floats

A program that counts in 64-bit floats compares whole numbers after rounding
them.  A number of at most fifty-three binary digits is not changed, and a longer
one keeps an exponent that no such number has.  Comparing with a bound of at most
fifty-three digits is therefore comparing the numbers, however long the other is.
-/

/-- The conversion of an unsigned integer, which rounds to the nearest float. -/
def asFloat (value : Nat) : Float := .ofModel (.ofNat value)

/-! ## Packing -/

variable {sign : UnpackedFloat.Sign}

theorem unpackSign_packComponents (exponent : BitVec 11) (mantissa : BitVec 52) :
    UnpackedFloat.unpackSign (UnpackedFloat.packComponents Format.binary64 sign exponent mantissa) =
      sign.toBitVec := by
  show ((sign.toBitVec ++ exponent) ++ mantissa).extractLsb' 63 1 = sign.toBitVec
  rw [BitVec.extractLsb'_append_eq_of_le (by decide),
    BitVec.extractLsb'_append_eq_of_le (by decide)]
  cases sign <;> rfl

theorem ofBitVec_toBitVec (sign : UnpackedFloat.Sign) :
    UnpackedFloat.Sign.ofBitVec sign.toBitVec = sign := by
  cases sign <;> rfl

theorem unpack_packedInfinity (sign : UnpackedFloat.Sign) :
    UnpackedFloat.unpack Format.binary64 (UnpackedFloat.packedInfinity Format.binary64 sign) =
      .infinity sign := by
  unfold UnpackedFloat.unpack UnpackedFloat.packedInfinity
  simp only [UnpackedFloat.unpackExponent_packComponents,
    UnpackedFloat.unpackMantissa_packComponents, unpackSign_packComponents, ofBitVec_toBitVec]
  rfl

/-- The implicit bit is put back in front of the mantissa that was cut. -/
theorem implicit_append {mantissa : Nat} (low : 2 ^ 52 ≤ mantissa) (high : mantissa < 2 ^ 53) :
    (1#1 ++ BitVec.ofNat 52 mantissa).toNat = mantissa := by
  have cut : (BitVec.ofNat 52 mantissa).toNat = mantissa - 2 ^ 52 := by
    rw [BitVec.toNat_ofNat]
    omega
  rw [BitVec.toNat_append, <- Nat.shiftLeft_add_eq_or_of_lt (BitVec.isLt _), cut]
  have implicit : (1#1).toNat <<< 52 = 2 ^ 52 := rfl
  rw [implicit]
  exact Nat.add_sub_of_le low

theorem ofNat_ne {biased other : Nat} (below : biased < 2048) (belowOther : other < 2048)
    (apart : biased ≠ other) :
    BitVec.ofNat 11 biased ≠ BitVec.ofNat 11 other := by
  intro same
  have values := congrArg BitVec.toNat same
  rw [BitVec.toNat_ofNat, BitVec.toNat_ofNat, Nat.mod_eq_of_lt below,
    Nat.mod_eq_of_lt belowOther] at values
  exact apart values

/-- What is packed with an implicit bit and an exponent in range is unpacked again. -/
theorem unpack_pack_normal {mantissa : Nat} {exponent : Int} (positive : 0 < mantissa)
    (low : 2 ^ 52 ≤ mantissa) (high : mantissa < 2 ^ 53) (above : -1074 ≤ exponent)
    (below : exponent ≤ 971) :
    UnpackedFloat.unpack Format.binary64
        (UnpackedFloat.pack Format.binary64 (.finite sign mantissa exponent positive)) =
      .finite sign mantissa exponent positive := by
  have log : mantissa.log2 = 52 := (Nat.log2_eq_iff (by omega)).mpr ⟨low, high⟩
  have biasedEq : (exponent + (Format.binary64.exponentBias : Int) +
      ((52 : Nat) : Int)).toNat = (exponent + 1075).toNat := by
    show (exponent + 1023 + 52).toNat = _
    omega
  unfold UnpackedFloat.pack
  simp only [log, biasedEq]
  rw [if_neg (by show ¬ 2048 ≤ _; omega), if_pos (by rfl)]
  unfold UnpackedFloat.unpack
  simp only [UnpackedFloat.unpackExponent_packComponents,
    UnpackedFloat.unpackMantissa_packComponents, unpackSign_packComponents, ofBitVec_toBitVec]
  have ones : (-1#11 : BitVec 11) = BitVec.ofNat 11 2047 := by decide
  rw [ones, if_neg (ofNat_ne (by omega) (by omega) (by omega)),
    if_neg (ofNat_ne (by omega) (by omega) (by omega))]
  congr 1
  · exact implicit_append low high
  · show ((BitVec.ofNat 11 (exponent + 1075).toNat).toNat : Int) - (1023 + 52) = exponent
    rw [BitVec.toNat_ofNat]
    omega

/-! ## Rounding whole numbers -/

theorem log2_eq {value digits : Nat} (low : 2 ^ digits ≤ value) (high : value < 2 ^ (digits + 1)) :
    value.log2 = digits := by
  refine (Nat.log2_eq_iff ?_).mpr ⟨low, high⟩
  have := Nat.two_pow_pos digits
  omega

theorem targetExponent_eq (total : Int) :
    Format.binary64.targetExponent total = max (total - 53) (-1074) := rfl

/-- A mantissa of full length stays where it is. -/
theorem shiftToTargetExponent_full {mantissa : Nat} {exponent : Int} (low : 2 ^ 52 ≤ mantissa)
    (high : mantissa < 2 ^ 53) (above : -1074 ≤ exponent) :
    UnpackedFloat.shiftToTargetExponent Format.binary64 mantissa exponent .exact =
      (⟨mantissa, false, false⟩, exponent) := by
  have stays : (Format.binary64.targetExponent (totalExponent mantissa exponent) - exponent).toNat =
      0 := by
    rw [targetExponent_eq, totalExponent, log2_eq low high]
    omega
  unfold UnpackedFloat.shiftToTargetExponent UnpackedFloat.shiftToExponent
  simp only [stays]
  exact congrArg (Prod.mk _) (Int.add_zero exponent)

theorem mantissa_shiftRight (extended : UnpackedFloat.ExtendedMantissa) (amount : Nat) :
    (extended >>> amount).mantissa = extended.mantissa / 2 ^ amount := by
  induction amount generalizing extended with
  | zero =>
      show extended.mantissa = _
      rw [Nat.pow_zero, Nat.div_one]
  | succ amount inner =>
      show (extended >>> amount).mantissa / 2 = _
      rw [inner, Nat.div_div_eq_div_mul, Nat.pow_succ]

theorem roundedMantissa_near (extended : UnpackedFloat.ExtendedMantissa) :
    extended.mantissa ≤ extended.roundedMantissa ∧
      extended.roundedMantissa ≤ extended.mantissa + 1 := by
  rcases extended with ⟨mantissa, roundBit, stickyBit⟩
  have parity := Nat.mod_lt mantissa (Nat.zero_lt_two)
  cases roundBit <;> cases stickyBit <;>
    simp only [UnpackedFloat.ExtendedMantissa.roundedMantissa,
      UnpackedFloat.ExtendedMantissa.accuracy, UnpackedFloat.Accuracy.roundToNearestEven] <;> omega

theorem ofNat_eq_round {value : Nat} (positive : 0 < value) :
    UnpackedFloat.ofNat Format.binary64 value =
      UnpackedFloat.round Format.binary64 .positive value 0 := by
  have above : compare (value : Int) 0 = .gt := compare_gt_iff_gt.mpr (by omega)
  unfold UnpackedFloat.ofNat UnpackedFloat.ofInt UnpackedFloat.normalize
  rw [above]
  rfl

/-- Shifted to full length, a number has as many digits as a mantissa. -/
theorem full_length {value : Nat} (positive : 0 < value) (small : value < 2 ^ 53) :
    2 ^ 52 ≤ value * 2 ^ (52 - value.log2) ∧ value * 2 ^ (52 - value.log2) < 2 ^ 53 := by
  have digits : value.log2 < 53 := (Nat.log2_lt (by omega)).mpr small
  constructor
  · calc 2 ^ 52 = 2 ^ value.log2 * 2 ^ (52 - value.log2) := by
          rw [<- Nat.pow_add, Nat.add_sub_of_le (by omega)]
      _ ≤ value * 2 ^ (52 - value.log2) :=
          Nat.mul_le_mul_right _ (Nat.log2_self_le (by omega))
  · calc value * 2 ^ (52 - value.log2) < 2 ^ (value.log2 + 1) * 2 ^ (52 - value.log2) :=
          Nat.mul_lt_mul_of_pos_right Nat.lt_log2_self (Nat.two_pow_pos _)
      _ = 2 ^ 53 := by rw [<- Nat.pow_add]; congr 1; omega

/-- A number that has no more digits than a mantissa is shifted to full length. -/
theorem ofNat_small {value : Nat} (positive : 0 < value) (small : value < 2 ^ 53) :
    exists nonzero, UnpackedFloat.ofNat Format.binary64 value =
      .finite .positive (value * 2 ^ (52 - value.log2)) ((value.log2 : Int) - 52) nonzero := by
  have digits : value.log2 < 53 := (Nat.log2_lt (by omega)).mpr small
  have above : -1074 ≤ (value.log2 : Int) - 52 := by omega
  rcases full_length positive small with ⟨low, high⟩
  have moved : UnpackedFloat.decreaseExponent value 0
      (Format.binary64.targetExponent (totalExponent value 0)) =
        (value * 2 ^ (52 - value.log2), (value.log2 : Int) - 52) := by
    have amount : (0 - Format.binary64.targetExponent (totalExponent value 0)).toNat =
        52 - value.log2 := by
      rw [targetExponent_eq, totalExponent]
      omega
    unfold UnpackedFloat.decreaseExponent
    simp only [amount, Nat.shiftLeft_eq]
    congr 1
    omega
  refine ⟨by omega, ?_⟩
  rw [ofNat_eq_round positive]
  unfold UnpackedFloat.round
  simp only [moved]
  unfold UnpackedFloat.roundWithAccuracy
  simp only [shiftToTargetExponent_full low high above]
  have exact : UnpackedFloat.ExtendedMantissa.roundedMantissa
      ⟨value * 2 ^ (52 - value.log2), false, false⟩ = value * 2 ^ (52 - value.log2) := rfl
  simp only [exact, shiftToTargetExponent_full low high above]
  exact dif_neg (by omega)

section Long

variable {value : Nat} (digits : 53 ≤ value.log2)
include digits

theorem targetExponent_long :
    Format.binary64.targetExponent (totalExponent value 0) = value.log2 - 52 := by
  rw [targetExponent_eq, totalExponent]
  omega

/-- A longer number has no zeros to be given at its end. -/
theorem decreaseExponent_long :
    UnpackedFloat.decreaseExponent value 0
      (Format.binary64.targetExponent (totalExponent value 0)) = (value, 0) := by
  have amount : (0 - Format.binary64.targetExponent (totalExponent value 0)).toNat = 0 := by
    rw [targetExponent_long digits]
    omega
  unfold UnpackedFloat.decreaseExponent
  simp only [amount]
  rfl

/-- Its digits past the length of a mantissa are cut. -/
theorem shiftToTargetExponent_long :
    UnpackedFloat.shiftToTargetExponent Format.binary64 value 0 .exact =
      ((⟨value, false, false⟩ : UnpackedFloat.ExtendedMantissa) >>> (value.log2 - 52),
        ((value.log2 - 52 : Nat) : Int)) := by
  have amount : (Format.binary64.targetExponent (totalExponent value 0) - 0).toNat =
      value.log2 - 52 := by
    rw [targetExponent_long digits]
    omega
  unfold UnpackedFloat.shiftToTargetExponent UnpackedFloat.shiftToExponent
  simp only [amount, Int.zero_add]
  rfl

/-- What is left has the length of a mantissa. -/
theorem cut_length :
    2 ^ 52 ≤ value / 2 ^ (value.log2 - 52) ∧ value / 2 ^ (value.log2 - 52) < 2 ^ 53 := by
  have split : 2 ^ value.log2 = 2 ^ 52 * 2 ^ (value.log2 - 52) := by
    rw [<- Nat.pow_add, Nat.add_sub_of_le (by omega)]
  constructor
  · rw [Nat.le_div_iff_mul_le (Nat.two_pow_pos _), <- split]
    apply Nat.log2_self_le
    rintro rfl
    rw [Nat.log2_zero] at digits
    omega
  · rw [Nat.div_lt_iff_lt_mul (Nat.two_pow_pos _)]
    have below := @Nat.lt_log2_self value
    rw [Nat.pow_succ, split] at below
    omega

end Long

/-- A mantissa that rounding has carried past its length is shifted back by one. -/
theorem shiftToTargetExponent_carried {exponent : Int} (above : -1074 ≤ exponent) :
    UnpackedFloat.shiftToTargetExponent Format.binary64 (2 ^ 53) exponent .exact =
      (⟨2 ^ 52, false, false⟩, exponent + 1) := by
  have amount : (Format.binary64.targetExponent (totalExponent (2 ^ 53) exponent) -
      exponent).toNat = 1 := by
    rw [targetExponent_eq, totalExponent, Nat.log2_two_pow]
    omega
  unfold UnpackedFloat.shiftToTargetExponent UnpackedFloat.shiftToExponent
  simp only [amount]
  rfl

/-- A longer number is rounded, and its exponent is positive. -/
theorem ofNat_large {value : Nat} (large : 2 ^ 53 ≤ value) :
    exists mantissa exponent nonzero, 2 ^ 52 ≤ mantissa ∧ mantissa < 2 ^ 53 ∧ 1 ≤ exponent ∧
      UnpackedFloat.ofNat Format.binary64 value =
        .finite .positive mantissa exponent nonzero := by
  have digits : 53 ≤ value.log2 := (Nat.le_log2 (by omega)).mpr large
  have above : -1074 ≤ ((value.log2 - 52 : Nat) : Int) := by omega
  have shifted := shiftToTargetExponent_long digits
  generalize cutEq : (⟨value, false, false⟩ : UnpackedFloat.ExtendedMantissa) >>>
    (value.log2 - 52) = cut at shifted
  have quotient : cut.mantissa = value / 2 ^ (value.log2 - 52) := by
    rw [<- cutEq, mantissa_shiftRight]
  rcases cut_length digits with ⟨low, high⟩
  rw [<- quotient] at low high
  rcases roundedMantissa_near cut with ⟨floor, ceil⟩
  rw [ofNat_eq_round (by omega)]
  unfold UnpackedFloat.round
  simp only [decreaseExponent_long digits]
  unfold UnpackedFloat.roundWithAccuracy
  simp only [shifted]
  by_cases full : cut.roundedMantissa < 2 ^ 53
  · refine ⟨cut.roundedMantissa, ((value.log2 - 52 : Nat) : Int), by omega, by omega, full, by omega,
      ?_⟩
    simp only [shiftToTargetExponent_full (Nat.le_trans low floor) full above]
    exact dif_neg (by omega)
  · have carried : cut.roundedMantissa = 2 ^ 53 := by omega
    refine ⟨2 ^ 52, ((value.log2 - 52 : Nat) : Int) + 1, by decide, Nat.le_refl _, by decide,
      by omega, ?_⟩
    simp only [carried, shiftToTargetExponent_carried above]
    exact dif_neg (by decide)

/-! ## Comparing -/

theorem unpack_asFloat (value : Nat) :
    (asFloat value).toModel.unpack = UnpackedFloat.unpack Format.binary64
      (UnpackedFloat.pack Format.binary64 (UnpackedFloat.ofNat Format.binary64 value)) := rfl

theorem unpack_zero : (asFloat 0).toModel.unpack = .zero .positive := rfl

theorem unpack_small {value : Nat} (positive : 0 < value) (small : value < 2 ^ 53) :
    exists nonzero, (asFloat value).toModel.unpack =
      .finite .positive (value * 2 ^ (52 - value.log2)) ((value.log2 : Int) - 52) nonzero := by
  have digits : value.log2 < 53 := (Nat.log2_lt (by omega)).mpr small
  rcases full_length positive small with ⟨low, high⟩
  rcases ofNat_small positive small with ⟨nonzero, rounded⟩
  rw [unpack_asFloat, rounded]
  exact ⟨nonzero, unpack_pack_normal nonzero low high (by omega) (by omega)⟩

theorem unpack_large {value : Nat} (large : 2 ^ 53 ≤ value) :
    (asFloat value).toModel.unpack = .infinity .positive ∨
      exists mantissa exponent nonzero, 1 ≤ exponent ∧
        (asFloat value).toModel.unpack = .finite .positive mantissa exponent nonzero := by
  rcases ofNat_large large with ⟨mantissa, exponent, nonzero, low, high, above, rounded⟩
  rw [unpack_asFloat, rounded]
  by_cases fits : exponent ≤ 971
  · exact Or.inr ⟨mantissa, exponent, nonzero, above,
      unpack_pack_normal nonzero low high (by omega) fits⟩
  · left
    rw [<- unpack_packedInfinity]
    unfold UnpackedFloat.pack
    have overflows : 2 ^ Format.binary64.exponentBits ≤ (exponent +
        (Format.binary64.exponentBias : Int) +
          (Format.binary64.mantissaBitsWithoutImplicit : Int)).toNat + 1 := by
      show 2048 ≤ (exponent + 1023 + 52).toNat + 1
      omega
    simp only [if_pos overflows]

/-- The exponents first, then the mantissas, is the order of the numbers. -/
theorem compare_log2 {left right : Nat} (leftPositive : 0 < left) (rightPositive : 0 < right) :
    (compare ((left.log2 : Int) - 52) ((right.log2 : Int) - 52)).then
      (compare (left * 2 ^ (52 - left.log2)) (right * 2 ^ (52 - right.log2))) =
        compare left right := by
  have leftLow := Nat.log2_self_le (by omega : left ≠ 0)
  have rightLow := Nat.log2_self_le (by omega : right ≠ 0)
  have leftHigh := @Nat.lt_log2_self left
  have rightHigh := @Nat.lt_log2_self right
  rcases Nat.lt_trichotomy left.log2 right.log2 with less | same | more
  · have powers := Nat.pow_le_pow_right Nat.zero_lt_two (by omega : left.log2 + 1 ≤ right.log2)
    rw [compare_lt_iff_lt.mpr (by omega : (left.log2 : Int) - 52 < (right.log2 : Int) - 52),
      compare_lt_iff_lt.mpr (by omega : left < right)]
    rfl
  · rw [same, compare_eq_iff_eq.mpr rfl]
    have scale := Nat.two_pow_pos (52 - right.log2)
    rcases Nat.lt_trichotomy left right with below | equal | above
    · rw [compare_lt_iff_lt.mpr below,
        compare_lt_iff_lt.mpr (Nat.mul_lt_mul_of_pos_right below scale)]
      rfl
    · rw [equal, compare_eq_iff_eq.mpr rfl, compare_eq_iff_eq.mpr rfl]
      rfl
    · rw [compare_gt_iff_gt.mpr above,
        compare_gt_iff_gt.mpr (Nat.mul_lt_mul_of_pos_right above scale)]
      rfl
  · have powers := Nat.pow_le_pow_right Nat.zero_lt_two (by omega : right.log2 + 1 ≤ left.log2)
    rw [compare_gt_iff_gt.mpr (by omega : (left.log2 : Int) - 52 > (right.log2 : Int) - 52),
      compare_gt_iff_gt.mpr (by omega : left > right)]
    rfl

theorem compare_small {left right : Nat} (leftSmall : left < 2 ^ 53) (rightSmall : right < 2 ^ 53) :
    (asFloat left).toModel.compare (asFloat right).toModel = some (compare left right) := by
  unfold Float.Model.compare
  rcases Nat.eq_zero_or_pos left with rfl | leftPositive
  · rcases Nat.eq_zero_or_pos right with rfl | rightPositive
    · rfl
    · rcases unpack_small rightPositive rightSmall with ⟨_, unpacked⟩
      rw [unpack_zero, unpacked, compare_lt_iff_lt.mpr rightPositive]
      rfl
  · rcases unpack_small leftPositive leftSmall with ⟨_, unpacked⟩
    rcases Nat.eq_zero_or_pos right with rfl | rightPositive
    · rw [unpack_zero, unpacked, compare_gt_iff_gt.mpr leftPositive]
      rfl
    · rcases unpack_small rightPositive rightSmall with ⟨_, unpackedRight⟩
      rw [unpacked, unpackedRight, <- compare_log2 leftPositive rightPositive]
      rfl

theorem compare_large {bound value : Nat} (small : bound < 2 ^ 53) (large : 2 ^ 53 ≤ value) :
    (asFloat bound).toModel.compare (asFloat value).toModel = some .lt ∧
      (asFloat value).toModel.compare (asFloat bound).toModel = some .gt := by
  unfold Float.Model.compare
  rcases Nat.eq_zero_or_pos bound with rfl | positive
  · rw [unpack_zero]
    rcases unpack_large large with unpacked | ⟨_, _, _, _, unpacked⟩
    · rw [unpacked]
      exact ⟨rfl, rfl⟩
    · rw [unpacked]
      exact ⟨rfl, rfl⟩
  · rcases unpack_small positive small with ⟨_, unpackedBound⟩
    have digits : bound.log2 < 53 := (Nat.log2_lt (by omega)).mpr small
    rw [unpackedBound]
    rcases unpack_large large with unpacked | ⟨mantissa, exponent, _, above, unpacked⟩
    · rw [unpacked]
      exact ⟨rfl, rfl⟩
    · have less : (bound.log2 : Int) - 52 < exponent := by omega
      rw [unpacked]
      unfold UnpackedFloat.compare
      simp only [compare_lt_iff_lt.mpr less, compare_gt_iff_gt.mpr less]
      exact ⟨rfl, rfl⟩

theorem lt_iff_compare (left right : Float) :
    left < right ↔ left.toModel.compare right.toModel = some .lt := by
  show decide ((left.toModel.compare right.toModel == some .lt) = true) = true ↔ _
  rw [decide_eq_true_eq, beq_iff_eq]

theorem le_iff_compare (left right : Float) :
    left ≤ right ↔ (left.toModel.compare right.toModel).any (·.isLE) = true := by
  show decide ((left.toModel.compare right.toModel).any (·.isLE) = true) = true ↔ _
  rw [decide_eq_true_eq]

/-- Against a number that a mantissa holds, floats compare as the numbers do. -/
theorem asFloat_lt_iff {bound : Nat} (small : bound < 2 ^ 53) (value : Nat) :
    asFloat bound < asFloat value ↔ bound < value := by
  rw [lt_iff_compare]
  by_cases large : value < 2 ^ 53
  · rw [compare_small small large, Option.some_inj, compare_lt_iff_lt]
  · rw [(compare_large small (Nat.le_of_not_lt large)).1]
    exact ⟨fun _ => by omega, fun _ => rfl⟩

theorem asFloat_le_iff {bound : Nat} (small : bound < 2 ^ 53) (value : Nat) :
    asFloat value ≤ asFloat bound ↔ value ≤ bound := by
  rw [le_iff_compare]
  by_cases large : value < 2 ^ 53
  · rw [compare_small large small, Option.any_some, Ordering.isLE_iff_ne_gt,
      compare_gt_iff_gt, Nat.not_lt]
  · rw [(compare_large small (Nat.le_of_not_lt large)).2]
    exact ⟨fun wrong => absurd wrong Bool.false_ne_true, fun _ => by omega⟩

/-! ## Adding -/

/-- Zeros at the end of a mantissa are shifted out without a trace. -/
theorem shiftRight_exact (mantissa amount : Nat) :
    (⟨mantissa * 2 ^ amount, false, false⟩ : UnpackedFloat.ExtendedMantissa) >>> amount =
      ⟨mantissa, false, false⟩ := by
  induction amount generalizing mantissa with
  | zero =>
      rw [Nat.pow_zero, Nat.mul_one]
      rfl
  | succ amount inner =>
      have doubled : mantissa * 2 ^ (amount + 1) = mantissa * 2 * 2 ^ amount := by
        rw [Nat.pow_succ, Nat.mul_assoc, Nat.mul_comm (2 ^ amount)]
      have half : mantissa * 2 / 2 = mantissa := Nat.mul_div_cancel mantissa Nat.two_pos
      have even : mantissa * 2 % 2 = 0 := Nat.mul_mod_left mantissa 2
      change ((⟨mantissa * 2 ^ (amount + 1), false, false⟩ : UnpackedFloat.ExtendedMantissa) >>>
        amount).shiftRightOne = _
      rw [doubled, inner]
      unfold UnpackedFloat.ExtendedMantissa.shiftRightOne
      simp only [half, even]
      rfl

/-- A number shifted past the length of a mantissa is rounded to the number. -/
theorem round_shifted {value digits : Nat} (positive : 0 < value) (small : value < 2 ^ 53)
    (within : digits ≤ value.log2) :
    UnpackedFloat.round Format.binary64 .positive (value * 2 ^ (52 - digits))
        ((digits : Int) - 52) =
      UnpackedFloat.ofNat Format.binary64 value := by
  have short : value.log2 < 53 := (Nat.log2_lt (by omega)).mpr small
  rcases ofNat_small positive small with ⟨nonzero, rounded⟩
  rcases full_length positive small with ⟨low, high⟩
  have length : (value * 2 ^ (52 - digits)).log2 = value.log2 + (52 - digits) := by
    apply log2_eq
    · rw [Nat.pow_add]
      exact Nat.mul_le_mul_right _ (Nat.log2_self_le (by omega))
    · rw [Nat.add_right_comm, Nat.pow_add]
      exact Nat.mul_lt_mul_of_pos_right Nat.lt_log2_self (Nat.two_pow_pos _)
  have target : Format.binary64.targetExponent
      (totalExponent (value * 2 ^ (52 - digits)) ((digits : Int) - 52)) =
        (value.log2 : Int) - 52 := by
    rw [targetExponent_eq, totalExponent, length]
    omega
  have moved : UnpackedFloat.decreaseExponent (value * 2 ^ (52 - digits)) ((digits : Int) - 52)
      (Format.binary64.targetExponent
        (totalExponent (value * 2 ^ (52 - digits)) ((digits : Int) - 52))) =
        (value * 2 ^ (52 - digits), (digits : Int) - 52) := by
    have amount : ((digits : Int) - 52 - ((value.log2 : Int) - 52)).toNat = 0 := by omega
    unfold UnpackedFloat.decreaseExponent
    simp only [target, amount]
    exact congrArg (Prod.mk _) (Int.sub_zero _)
  have split : value * 2 ^ (52 - digits) =
      value * 2 ^ (52 - value.log2) * 2 ^ (value.log2 - digits) := by
    rw [Nat.mul_assoc, <- Nat.pow_add]
    congr 2
    omega
  have shifted : UnpackedFloat.shiftToTargetExponent Format.binary64 (value * 2 ^ (52 - digits))
      ((digits : Int) - 52) .exact =
        (⟨value * 2 ^ (52 - value.log2), false, false⟩, (value.log2 : Int) - 52) := by
    have amount : ((value.log2 : Int) - 52 - ((digits : Int) - 52)).toNat =
        value.log2 - digits := by omega
    unfold UnpackedFloat.shiftToTargetExponent UnpackedFloat.shiftToExponent
    simp only [target, amount]
    refine Prod.ext ?_ ?_
    · change (⟨value * 2 ^ (52 - digits), false, false⟩ : UnpackedFloat.ExtendedMantissa) >>>
        (value.log2 - digits) = _
      rw [split]
      exact shiftRight_exact _ _
    · change (digits : Int) - 52 + ((value.log2 - digits : Nat) : Int) = _
      omega
  have exact : UnpackedFloat.ExtendedMantissa.roundedMantissa
      ⟨value * 2 ^ (52 - value.log2), false, false⟩ = value * 2 ^ (52 - value.log2) := rfl
  rw [rounded]
  unfold UnpackedFloat.round
  simp only [moved]
  unfold UnpackedFloat.roundWithAccuracy
  simp only [shifted, exact, shiftToTargetExponent_full low high
    (by omega : -1074 ≤ (value.log2 : Int) - 52)]
  exact dif_neg (by omega)

/-- The mantissa of a number, shifted to the exponent of a shorter one. -/
theorem decreaseExponent_shorter {value digits : Nat} (positive : 0 < value)
    (small : value < 2 ^ 53) (within : digits ≤ value.log2) :
    (UnpackedFloat.decreaseExponent (value * 2 ^ (52 - value.log2)) ((value.log2 : Int) - 52)
      ((digits : Int) - 52)).1 = value * 2 ^ (52 - digits) := by
  have short : value.log2 < 53 := (Nat.log2_lt (by omega)).mpr small
  have amount : ((value.log2 : Int) - 52 - ((digits : Int) - 52)).toNat =
      value.log2 - digits := by omega
  unfold UnpackedFloat.decreaseExponent
  simp only [amount, Nat.shiftLeft_eq]
  rw [Nat.mul_assoc, <- Nat.pow_add]
  congr 2
  omega

theorem unpack_eq_ofNat {value : Nat} (small : value < 2 ^ 53) :
    (asFloat value).toModel.unpack = UnpackedFloat.ofNat Format.binary64 value := by
  rcases Nat.eq_zero_or_pos value with rfl | positive
  · rfl
  · rcases unpack_small positive small with ⟨_, unpacked⟩
    rcases ofNat_small positive small with ⟨_, rounded⟩
    rw [unpacked, rounded]

theorem normalize_of_pos {mantissa : Nat} (positive : 0 < mantissa) (exponent : Int) :
    UnpackedFloat.normalize Format.binary64 mantissa exponent .positive =
      UnpackedFloat.round Format.binary64 .positive mantissa exponent := by
  have above : compare (mantissa : Int) 0 = .gt := compare_gt_iff_gt.mpr (by omega)
  unfold UnpackedFloat.normalize
  rw [above]
  rfl

/-- Two mantissas are shifted to the smaller exponent, where their sum is the sum's mantissa. -/
theorem add_small {left right : Nat} (leftPositive : 0 < left) (rightPositive : 0 < right)
    (small : left + right < 2 ^ 53) (leftNonzero rightNonzero) :
    UnpackedFloat.add Format.binary64
        (.finite .positive (left * 2 ^ (52 - left.log2)) ((left.log2 : Int) - 52) leftNonzero)
        (.finite .positive (right * 2 ^ (52 - right.log2)) ((right.log2 : Int) - 52) rightNonzero) =
      UnpackedFloat.ofNat Format.binary64 (left + right) := by
  have lower : min ((left.log2 : Int) - 52) ((right.log2 : Int) - 52) =
      ((min left.log2 right.log2 : Nat) : Int) - 52 := by omega
  have ofLeft := decreaseExponent_shorter leftPositive (by omega)
    (Nat.min_le_left left.log2 right.log2)
  have ofRight := decreaseExponent_shorter rightPositive (by omega)
    (Nat.min_le_right left.log2 right.log2)
  have grown : left.log2 ≤ (left + right).log2 :=
    (Nat.le_log2 (by omega)).mpr ((Nat.log2_self_le (by omega)).trans (Nat.le_add_right left right))
  change UnpackedFloat.normalize Format.binary64
    (((UnpackedFloat.decreaseExponent _ _ (min _ _)).1 : Int) +
      ((UnpackedFloat.decreaseExponent _ _ (min _ _)).1 : Int)) (min _ _) .positive = _
  rw [lower, ofLeft, ofRight, <- Int.natCast_add, <- Nat.add_mul,
    normalize_of_pos (Nat.mul_pos (by omega) (Nat.two_pow_pos _))]
  exact round_shifted (by omega) small ((Nat.min_le_left _ _).trans grown)

/-- As long as a mantissa holds the sum, floats add as the numbers do. -/
theorem asFloat_add {left right : Nat} (small : left + right < 2 ^ 53) :
    asFloat left + asFloat right = asFloat (left + right) := by
  have added : UnpackedFloat.add Format.binary64 (asFloat left).toModel.unpack
      (asFloat right).toModel.unpack = UnpackedFloat.ofNat Format.binary64 (left + right) := by
    rcases Nat.eq_zero_or_pos left with rfl | leftPositive
    · rw [Nat.zero_add, <- unpack_eq_ofNat (by omega : right < 2 ^ 53), unpack_zero]
      rcases Nat.eq_zero_or_pos right with rfl | rightPositive
      · rfl
      · rcases unpack_small rightPositive (by omega) with ⟨_, unpacked⟩
        rw [unpacked]
        rfl
    · rcases unpack_small leftPositive (by omega) with ⟨_, unpacked⟩
      rcases Nat.eq_zero_or_pos right with rfl | rightPositive
      · rw [Nat.add_zero, <- unpack_eq_ofNat (by omega : left < 2 ^ 53), unpack_zero, unpacked]
        rfl
      · rcases unpack_small rightPositive (by omega) with ⟨_, unpackedRight⟩
        rw [unpacked, unpackedRight]
        exact add_small leftPositive rightPositive small _ _
  change Float.ofModel (.pack (UnpackedFloat.add Format.binary64 (asFloat left).toModel.unpack
      (asFloat right).toModel.unpack)) = _
  rw [added]
  rfl

theorem asFloat_inj {left right : Nat} (leftSmall : left < 2 ^ 53) (rightSmall : right < 2 ^ 53)
    (same : asFloat left = asFloat right) : left = right := by
  have upper := asFloat_le_iff rightSmall left
  have lower := asFloat_le_iff leftSmall right
  rw [same] at upper lower
  have reflexive : asFloat right ≤ asFloat right := (asFloat_le_iff rightSmall right).mpr le_rfl
  exact Nat.le_antisymm (upper.mp reflexive) (lower.mp reflexive)

end Foundations
end DigGossip
