import IcuMessage.Proofs.Decimal.Nearest
import Mathlib

/-!
# Arithmetic on binary floating-point numbers

The difference of two numbers of 64 bits is the number of 64 bits that is nearest to their
exact difference (`value?_sub`), and an integer is taken for the nearest number of 64 bits
(`value?_ofInt`), both as long as the exact number is below `2 ^ 1023` in magnitude.

Arithmetic is done on unpacked numbers.  `Denotes` says of an unpacked number that it is in
the form that can be packed, and which rational number it is.
-/

namespace IcuMessage.Binary64

open Float.Model (Format UnpackedFloat)
open Float.Model.UnpackedFloat

/-! ## Unpacked numbers -/

/-- The rational number of a sign, a mantissa and an exponent. -/
def signedValue (sign : UnpackedFloat.Sign) (mantissa : Nat) (exponent : ℤ) : ℚ :=
  (sign.apply mantissa : ℤ) * 2 ^ exponent

/-- An unpacked number that can be packed as it is, and the rational number that it
denotes. -/
inductive Denotes : UnpackedFloat → ℚ → Prop where
  | zero (sign : UnpackedFloat.Sign) : Denotes (.zero sign) 0
  | finite {sign : UnpackedFloat.Sign} {mantissa : Nat} {exponent : ℤ} (positive : 0 < mantissa)
      (small : mantissa < 2 ^ 53)
      (lowest : -1074 ≤ exponent)
      (highest : exponent ≤ 971)
      (normal : 2 ^ 52 ≤ mantissa ∨ exponent = -1074) :
      Denotes (.finite sign mantissa exponent positive) (signedValue sign mantissa exponent)

@[simp]
theorem signedValue_positive (mantissa : Nat) (exponent : ℤ) :
    signedValue .positive mantissa exponent = magnitudeValue mantissa exponent := by
  simp [signedValue, magnitudeValue, UnpackedFloat.Sign.apply]

@[simp]
theorem signedValue_negative (mantissa : Nat) (exponent : ℤ) :
    signedValue .negative mantissa exponent = -magnitudeValue mantissa exponent := by
  simp [signedValue, magnitudeValue, UnpackedFloat.Sign.apply]

theorem nearest_signedValue {sign : UnpackedFloat.Sign} {mantissa : Nat} {exponent : ℤ} :
    nearest (signedValue sign mantissa exponent) =
      signedValue sign mantissa exponent ↔
    nearest (magnitudeValue mantissa exponent) = magnitudeValue mantissa exponent := by
  cases sign <;> simp [nearest_neg]

theorem Denotes.nearest {unpacked : UnpackedFloat} {number : ℚ}
    (denotes : Denotes unpacked number) : Binary64.nearest number = number := by
  cases denotes with
  | zero => exact nearest_zero
  | finite _ small lowest =>
      exact nearest_signedValue.mpr (nearest_magnitudeValue small lowest)

theorem Denotes.neg {unpacked : UnpackedFloat} {number : ℚ}
    (denotes : Denotes unpacked number) : Denotes unpacked.neg (-number) := by
  cases denotes with
  | zero =>
      rw [neg_zero]
      exact .zero _
  | @finite sign mantissa exponent positive small lowest highest normal =>
      have opposite : signedValue (-sign) mantissa exponent =
          -signedValue sign mantissa exponent := by
        cases sign
        · exact (signedValue_positive _ _).trans (by rw [signedValue_negative, neg_neg])
        · exact (signedValue_negative _ _).trans (by rw [signedValue_positive])
      rw [← opposite]
      exact .finite positive small lowest highest normal

/-! ## Packing -/

section Fields

variable (bits : BitVec Format.binary64.numBits)

theorem toNat_unpackMantissa : (unpackMantissa bits).toNat = bits.toNat % 2 ^ 52 := by
  simp [unpackMantissa]

theorem toNat_unpackExponent :
    (unpackExponent bits).toNat = bits.toNat / 2 ^ 52 % 2048 := by
  simp [unpackExponent, Nat.shiftRight_eq_div_pow]

theorem unpackSign_eq_one_iff : unpackSign bits = 1#1 ↔ 2 ^ 63 ≤ bits.toNat := by
  have below : bits.toNat < 2 ^ 64 := bits.isLt
  rw [← BitVec.toNat_inj]
  simp [unpackSign, Nat.shiftRight_eq_div_pow]
  omega

theorem unpackExponent_eq_top_iff :
    unpackExponent bits = -1#_ ↔ (unpackExponent bits).toNat = 2047 := by
  rw [← BitVec.toNat_inj]
  rfl

theorem unpackExponent_eq_zero_iff :
    unpackExponent bits = 0#_ ↔ (unpackExponent bits).toNat = 0 := by
  rw [← BitVec.toNat_inj]
  rfl

/-- The mantissa of a number with its highest digit, which is not written. -/
theorem toNat_implicit :
    (1#1 ++ unpackMantissa bits).toNat = 2 ^ 52 + (unpackMantissa bits).toNat := by
  rw [BitVec.toNat_append, ← Nat.shiftLeft_add_eq_or_of_lt (unpackMantissa bits).isLt]
  rfl

/-- The number that the unpacked fields denote. -/
def ofUnpacked : Binary64 :=
  ofFields (unpackSign bits = 1#1) (unpackExponent bits).toNat (unpackMantissa bits).toNat

/-- The fields of a float are those that are unpacked. -/
theorem ofFloat_eq_ofUnpacked (value : Float) :
    ofFloat value = ofUnpacked value.toModel.toBits.toBitVec := by
  rw [ofUnpacked]
  simp only [toNat_unpackMantissa, toNat_unpackExponent, unpackSign_eq_one_iff]
  rfl

theorem ofFloat_pack {unpacked : UnpackedFloat} {sign : UnpackedFloat.Sign} {exponent : BitVec 11}
    {mantissa : BitVec 52}
    (packed : pack Format.binary64 unpacked =
      packComponents Format.binary64 sign exponent mantissa) :
    ofFloat (.ofModel (.pack unpacked)) =
      ofFields (sign.toBitVec = 1#1) exponent.toNat mantissa.toNat := by
  have bits : (Float.Model.pack unpacked).toBits.toBitVec =
      packComponents Format.binary64 sign exponent mantissa := packed
  rw [ofFloat_eq_ofUnpacked, bits, ofUnpacked, unpackSign_packComponents,
    unpackExponent_packComponents, unpackMantissa_packComponents]

end Fields

/-- The highest exponent field is for what is no number. -/
theorem value?_ofFields_top (negative : Bool) (fraction : Nat) :
    (ofFields negative 2047 fraction).value? = none := by
  by_cases infinite : fraction = 0 <;> simp [ofFields, infinite, value?]

/-- A number with the lowest exponent has no implicit digit. -/
theorem value?_ofFields_lowest (sign : UnpackedFloat.Sign) (fraction : Nat) :
    (ofFields (sign.toBitVec = 1#1) 0 fraction).value? =
      some (signedValue sign fraction (-1074)) := by
  cases sign <;> simp [ofFields, value?, UnpackedFloat.Sign.toBitVec]

/-- Any other number has one more digit than is written. -/
theorem value?_ofFields_normal (sign : UnpackedFloat.Sign) {field fraction : Nat}
    (written : field ≠ 0) (finite : field ≠ 2047) :
    (ofFields (sign.toBitVec = 1#1) field fraction).value? =
      some (signedValue sign (2 ^ 52 + fraction) (field - 1075)) := by
  cases sign <;> simp [ofFields, written, finite, value?, UnpackedFloat.Sign.toBitVec]

/-- The exponent field of a number, before it is cut to its bits. -/
theorem biasedExponent_eq (exponent : ℤ) :
    (exponent + Format.binary64.exponentBias +
        Format.binary64.mantissaBitsWithoutImplicit).toNat = (exponent + 1075).toNat := by
  change (exponent + 1023 + 52).toNat = _
  omega

/-- The highest digit of a full mantissa is not written. -/
theorem value?_pack_of_full (sign : UnpackedFloat.Sign) {mantissa : Nat} {exponent : ℤ}
    (positive : 0 < mantissa) (full : 2 ^ 52 ≤ mantissa) (small : mantissa < 2 ^ 53)
    (lowest : -1074 ≤ exponent) (highest : exponent ≤ 971) :
    (ofFloat (.ofModel (.pack (.finite sign mantissa exponent positive)))).value? =
      some (signedValue sign mantissa exponent) := by
  have biased := biasedExponent_eq exponent
  have finite : ¬ 2 ^ 11 ≤ (exponent + 1075).toNat + 1 := by omega
  have digits : mantissa.log2 = 52 := (Nat.log2_eq_iff positive.ne').mpr ⟨full, small⟩
  have packed : pack Format.binary64 (.finite sign mantissa exponent positive) =
      packComponents _ sign (BitVec.ofNat _ (exponent + 1075).toNat)
        (BitVec.ofNat _ mantissa) := by
    simp only [pack, biased, digits, finite, if_false]
    rfl
  have field : (BitVec.ofNat 11 (exponent + 1075).toNat).toNat = (exponent + 1075).toNat :=
    Nat.mod_eq_of_lt (by omega)
  have fraction : 2 ^ 52 + (BitVec.ofNat 52 mantissa).toNat = mantissa := by
    rw [BitVec.toNat_ofNat]
    omega
  have unbiased : ((exponent + 1075).toNat : ℤ) - 1075 = exponent := by omega
  rw [ofFloat_pack packed, field, value?_ofFields_normal sign (by omega) (by omega),
    fraction, unbiased]

/-- A shorter mantissa is written with all its digits. -/
theorem value?_pack_of_short (sign : UnpackedFloat.Sign) {mantissa : Nat}
    (positive : 0 < mantissa) (short : mantissa < 2 ^ 52) :
    (ofFloat (.ofModel (.pack (.finite sign mantissa (-1074) positive)))).value? =
      some (signedValue sign mantissa (-1074)) := by
  have digits : mantissa.log2 + 1 ≠ 53 := by
    have := (Nat.log2_lt positive.ne').mpr short
    omega
  have biased := biasedExponent_eq (-1074)
  have finite : ¬ 2 ^ 11 ≤ (-1074 + 1075 : ℤ).toNat + 1 := by decide
  have packed : pack Format.binary64 (.finite sign mantissa (-1074) positive) =
      packComponents _ sign 0#_ (BitVec.ofNat _ mantissa) := by
    simp only [pack, biased, finite, if_false]
    exact if_neg digits
  have fraction : (BitVec.ofNat 52 mantissa).toNat = mantissa :=
    Nat.mod_eq_of_lt (by omega)
  rw [ofFloat_pack packed, fraction]
  exact value?_ofFields_lowest sign mantissa

/-- Packing keeps the number. -/
theorem Denotes.value?_pack {unpacked : UnpackedFloat} {number : ℚ}
    (denotes : Denotes unpacked number) :
    (ofFloat (.ofModel (.pack unpacked))).value? = some number := by
  cases denotes with
  | zero sign =>
      have packed : pack Format.binary64 (.zero sign) = packComponents _ sign 0 0 := rfl
      rw [ofFloat_pack packed]
      have zero : signedValue sign 0 (-1074) = 0 := by
        cases sign <;> simp [magnitudeValue]
      rw [← zero]
      exact value?_ofFields_lowest sign 0
  | @finite sign mantissa exponent positive small lowest highest normal =>
      by_cases full : 2 ^ 52 ≤ mantissa
      · exact value?_pack_of_full sign positive full small lowest highest
      · obtain rfl : exponent = -1074 := normal.resolve_left full
        exact value?_pack_of_short sign positive (not_le.mp full)

/-- Unpacking gives the form that can be packed. -/
theorem denotes_unpack_bits (bits : BitVec Format.binary64.numBits) {number : ℚ}
    (denoted : (ofUnpacked bits).value? = some number) :
    Denotes (unpack Format.binary64 bits) number := by
  have signBit : (UnpackedFloat.Sign.ofBitVec (unpackSign bits)).toBitVec = unpackSign bits :=
    UnpackedFloat.Sign.toBitVec_ofBitVec _
  have fractionBound : (unpackMantissa bits).toNat < 2 ^ 52 := (unpackMantissa bits).isLt
  have fieldBound : (unpackExponent bits).toNat < 2 ^ 11 := (unpackExponent bits).isLt
  have top := unpackExponent_eq_top_iff bits
  have bottom := unpackExponent_eq_zero_iff bits
  rw [ofUnpacked, ← signBit] at denoted
  fun_cases unpack Format.binary64 bits with
  | case1 _ _ _ _ infinite =>
      rw [top.mp infinite, value?_ofFields_top] at denoted
      cases denoted
  | case2 _ _ infinite =>
      rw [top.mp infinite, value?_ofFields_top] at denoted
      cases denoted
  | case3 fraction field _ sign _ lowest none =>
      have zero : signedValue sign (unpackMantissa bits).toNat (-1074) = 0 := by
        rw [show unpackMantissa bits = 0#_ from none]
        cases sign <;> simp [magnitudeValue]
      rw [bottom.mp lowest, value?_ofFields_lowest] at denoted
      cases denoted
      rw [zero]
      exact .zero sign
  | case4 fraction field exponent _ sign _ lowest some =>
      have unbiased : exponent + 1 = -1074 := by
        change ((unpackExponent bits).toNat : ℤ) - (1023 + 52) + 1 = -1074
        rw [bottom.mp lowest]
        norm_num
      rw [bottom.mp lowest, value?_ofFields_lowest, ← unbiased] at denoted
      cases denoted
      have small : (unpackMantissa bits).toNat < 2 ^ 53 := by omega
      exact .finite _ small unbiased.ge (unbiased.le.trans (by norm_num)) (.inr unbiased)
  | case5 fraction field exponent _ sign finite written =>
      have unbiased : exponent = (unpackExponent bits).toNat - 1075 := by
        change ((unpackExponent bits).toNat : ℤ) - (1023 + 52) = _
        norm_num
      have implicit := toNat_implicit bits
      have belowTop := (not_congr top).mp finite
      have aboveBottom := (not_congr bottom).mp written
      rw [value?_ofFields_normal _ aboveBottom belowTop, ← implicit, ← unbiased] at denoted
      cases denoted
      have small : (1#1 ++ unpackMantissa bits).toNat < 2 ^ 53 := by omega
      have normal : 2 ^ 52 ≤ (1#1 ++ unpackMantissa bits).toNat := by omega
      have lowest : -1074 ≤ exponent := by
        rw [unbiased]
        omega
      have highest : exponent ≤ 971 := by
        rw [unbiased]
        omega
      exact .finite _ small lowest highest (.inl normal)

theorem denotes_unpack {value : Float} {number : ℚ}
    (denoted : (ofFloat value).value? = some number) :
    Denotes value.toModel.unpack number := by
  rw [ofFloat_eq_ofUnpacked] at denoted
  exact denotes_unpack_bits _ denoted

/-! ## Rounding -/

/-- What the round bit and the sticky bit of a mantissa say of a number: it is the
mantissa, or between the mantissa and the middle to the next one, or this middle, or
beyond it. -/
def Approximates (extended : ExtendedMantissa) (number : ℚ) : Prop :=
  match extended with
  | ⟨mantissa, false, false⟩ => number = mantissa
  | ⟨mantissa, false, true⟩ => mantissa < number ∧ number < mantissa + 1 / 2
  | ⟨mantissa, true, false⟩ => number = mantissa + 1 / 2
  | ⟨mantissa, true, true⟩ => mantissa + 1 / 2 < number ∧ number < mantissa + 1

namespace Approximates

variable {extended : ExtendedMantissa} {number : ℚ}

/-- A shift by one digit halves the number. -/
theorem shiftRightOne (approximates : Approximates extended number) :
    Approximates extended.shiftRightOne (number / 2) := by
  obtain ⟨mantissa, round, sticky⟩ := extended
  rcases Nat.even_or_odd' mantissa with
    ⟨half, rfl | rfl⟩
  · have shifted : ExtendedMantissa.shiftRightOne ⟨2 * half, round, sticky⟩ =
        ⟨half, false, round || sticky⟩ := by
      simp [ExtendedMantissa.shiftRightOne]
    rw [shifted]
    cases round <;> cases sticky <;>
      simp only [Approximates, Bool.or_self, Bool.or_true, Bool.or_false] at approximates ⊢ <;>
      push_cast at approximates
    · linarith
    · constructor <;> linarith
    · constructor <;> linarith
    · constructor <;> linarith
  · have shifted : ExtendedMantissa.shiftRightOne ⟨2 * half + 1, round, sticky⟩ =
        ⟨half, true, round || sticky⟩ := by
      simp [ExtendedMantissa.shiftRightOne]
      omega
    rw [shifted]
    cases round <;> cases sticky <;>
      simp only [Approximates, Bool.or_self, Bool.or_true, Bool.or_false] at approximates ⊢ <;>
      push_cast at approximates
    · linarith
    · constructor <;> linarith
    · constructor <;> linarith
    · constructor <;> linarith

theorem shiftRight (approximates : Approximates extended number) (shift : Nat) :
    Approximates (extended >>> shift) (number / 2 ^ shift) := by
  change Approximates (shift.repeat ExtendedMantissa.shiftRightOne extended) _
  induction shift with
  | zero => simpa [Nat.repeat] using approximates
  | succ shift ih =>
      have halved := ih.shiftRightOne
      rw [pow_succ, ← div_div]
      exact halved

/-- Rounding a mantissa by its two bits goes to the nearest integer. -/
theorem roundedMantissa (approximates : Approximates extended number) :
    nearestEven number = extended.roundedMantissa := by
  obtain ⟨mantissa, round, sticky⟩ := extended
  rw [nearestEven_eq_iff]
  cases round <;> cases sticky <;>
    simp only [Approximates, ExtendedMantissa.roundedMantissa, ExtendedMantissa.accuracy,
      Accuracy.roundToNearestEven] at approximates ⊢
  · rw [approximates]
    exact .intCast mantissa
  · left
    rw [abs_lt]
    push_cast
    constructor <;> linarith
  · right
    rw [approximates]
    rcases Nat.even_or_odd' mantissa with
      ⟨half, rfl | rfl⟩
    · have even : 2 * half + 2 * half % 2 = 2 * half := by omega
      rw [even]
      push_cast
      refine ⟨by norm_num, even_two_mul _⟩
    · have even : 2 * half + 1 + (2 * half + 1) % 2 = 2 * (half + 1) := by omega
      rw [even]
      push_cast
      refine ⟨?_, even_two_mul _⟩
      ring_nf
      norm_num
  · left
    rw [abs_lt]
    push_cast
    constructor <;> linarith

end Approximates

section Rounding

variable {mantissa : Nat} {exponent : ℤ}

/-- The exponent to which a mantissa is shifted. -/
theorem targetExponent_eq :
    Format.binary64.targetExponent (Float.Model.totalExponent mantissa exponent) =
      max (mantissa.log2 + exponent - 52) (-1074) := by
  change max ((mantissa.log2 : ℤ) + 1 + exponent - (1 + 52 : Nat))
    (3 - 2 ^ 10 - (1 + 52 : Nat)) = _
  omega

/-- A mantissa that is shifted to its step approximates the number in steps. -/
theorem approximates_shiftToTargetExponent (positive : 0 < mantissa)
    (fine : exponent ≤ stepExponent (magnitudeValue mantissa exponent)) :
    ∃ extended,
      shiftToTargetExponent Format.binary64 mantissa exponent .exact =
          (extended, stepExponent (magnitudeValue mantissa exponent)) ∧
        Approximates extended
          (magnitudeValue mantissa exponent / step (magnitudeValue mantissa exponent)) := by
  obtain ⟨shift, equal⟩ := Int.le.dest fine
  have amount : (stepExponent (magnitudeValue mantissa exponent) - exponent).toNat = shift := by
    omega
  refine ⟨ExtendedMantissa.mk mantissa false false >>> shift, ?_, ?_⟩
  · rw [shiftToTargetExponent, targetExponent_eq, ← stepExponent_magnitudeValue positive]
    simp only [shiftToExponent, amount, equal]
    rfl
  · have start : Approximates ⟨mantissa, false, false⟩ mantissa := rfl
    have steps : magnitudeValue mantissa exponent / step (magnitudeValue mantissa exponent) =
        mantissa / 2 ^ shift := by
      rw [step, ← equal, magnitudeValue, zpow_add₀ two_ne_zero, zpow_natCast]
      field_simp
    rw [steps]
    exact start.shiftRight shift

/-- A mantissa that has no more digits than it may have is not shifted. -/
theorem shiftToTargetExponent_of_small (small : mantissa < 2 ^ 53) (lowest : -1074 ≤ exponent) :
    shiftToTargetExponent Format.binary64 mantissa exponent .exact =
      (⟨mantissa, false, false⟩, exponent) := by
  have digits : mantissa.log2 ≤ 52 := by
    rcases Nat.eq_zero_or_pos mantissa with rfl | positive
    · decide
    · have := (Nat.log2_lt positive.ne').mpr small
      omega
  have amount : (max ((mantissa.log2 : ℤ) + exponent - 52) (-1074) - exponent).toNat = 0 := by
    omega
  rw [shiftToTargetExponent, targetExponent_eq]
  simp only [shiftToExponent, amount, Nat.cast_zero, add_zero]
  rfl

/-- A mantissa that was rounded up to one digit more is halved. -/
theorem shiftToTargetExponent_of_carry (lowest : -1074 ≤ exponent) :
    shiftToTargetExponent Format.binary64 (2 ^ 53) exponent .exact =
      (⟨2 ^ 52, false, false⟩, exponent + 1) := by
  have amount :
      (max (((2 ^ 53 : Nat).log2 : ℤ) + exponent - 52) (-1074) - exponent).toNat = 1 := by
    rw [Nat.log2_two_pow]
    omega
  rw [shiftToTargetExponent, targetExponent_eq]
  simp only [shiftToExponent, amount]
  rfl

/-- The unpacked number with a mantissa that may be zero. -/
def unpackedOf (sign : UnpackedFloat.Sign) (mantissa : Nat) (exponent : ℤ) : UnpackedFloat :=
  if h : mantissa = 0 then .zero sign
  else .finite sign mantissa exponent (Nat.pos_of_ne_zero h)

theorem denotes_unpackedOf (sign : UnpackedFloat.Sign) (small : mantissa < 2 ^ 53)
    (lowest : -1074 ≤ exponent) (highest : exponent ≤ 971)
    (normal : 2 ^ 52 ≤ mantissa ∨ exponent = -1074) :
    Denotes (unpackedOf sign mantissa exponent) (signedValue sign mantissa exponent) := by
  rw [unpackedOf]
  split
  case isTrue none =>
    have zero : signedValue sign mantissa exponent = 0 := by
      cases sign <;> simp [none, magnitudeValue]
    rw [zero]
    exact .zero sign
  case isFalse some => exact .finite _ small lowest highest normal

/-- Rounding shifts a mantissa, rounds it, and shifts it again if that was a carry. -/
theorem roundWithAccuracy_eq_unpackedOf {sign : UnpackedFloat.Sign}
    {extended final : ExtendedMantissa} {shiftedExponent finalExponent : ℤ}
    (shifted : shiftToTargetExponent Format.binary64 mantissa exponent .exact =
      (extended, shiftedExponent))
    (settled : shiftToTargetExponent Format.binary64 extended.roundedMantissa shiftedExponent
      .exact = (final, finalExponent)) :
    roundWithAccuracy Format.binary64 sign mantissa exponent .exact =
      unpackedOf sign final.mantissa finalExponent := by
  rw [roundWithAccuracy]
  simp only [shifted, settled]
  rfl

/-- Rounding goes to the nearest number. -/
theorem denotes_roundWithAccuracy (sign : UnpackedFloat.Sign) (positive : 0 < mantissa)
    (fine : exponent ≤ stepExponent (magnitudeValue mantissa exponent))
    (bounded : magnitudeValue mantissa exponent < 2 ^ 1023) :
    Denotes (roundWithAccuracy Format.binary64 sign mantissa exponent .exact)
      (nearest (signedValue sign mantissa exponent)) := by
  rcases approximates_shiftToTargetExponent positive fine with
    ⟨extended, shifted, approximates⟩
  set number := magnitudeValue mantissa exponent with defined
  have rounded := approximates.roundedMantissa
  have nearestMagnitude : nearest number =
      magnitudeValue extended.roundedMantissa (stepExponent number) := by
    rw [nearest, rounded, magnitudeValue, step]
    push_cast
    rfl
  have nearestNumber : nearest (signedValue sign mantissa exponent) =
      signedValue sign extended.roundedMantissa (stepExponent number) := by
    cases sign <;> simp [nearest_neg, ← defined, nearestMagnitude]
  have lowest : -1074 ≤ stepExponent number := le_max_right _ _
  have above : 0 < number := mul_pos (by exact_mod_cast positive) (zpow_pos two_pos _)
  have absolute : |number| = number := abs_of_pos above
  have highest : stepExponent number ≤ 970 := by
    apply stepExponent_le_of_abs_lt above.ne' _ (by norm_num)
    rw [absolute, show (970 + 53 : ℤ) = (1023 : Nat) by norm_num, zpow_natCast]
    exact bounded
  have atMost : extended.roundedMantissa ≤ 2 ^ 53 := by
    have whole := nearestEven_steps_le number
    rw [rounded] at whole
    exact_mod_cast whole
  have normal : 2 ^ 52 ≤ extended.roundedMantissa ∨ stepExponent number = -1074 := by
    have whole := le_nearestEven_steps above
    rw [rounded] at whole
    exact_mod_cast whole
  rw [nearestNumber]
  rcases Nat.lt_or_eq_of_le atMost with small | carry
  · rw [roundWithAccuracy_eq_unpackedOf shifted (shiftToTargetExponent_of_small small lowest)]
    exact denotes_unpackedOf sign small lowest (by omega) normal
  · have settled := shiftToTargetExponent_of_carry lowest
    rw [← carry] at settled
    have doubled : signedValue sign (2 ^ 53) (stepExponent number) =
        signedValue sign (2 ^ 52) (stepExponent number + 1) := by
      rw [signedValue, signedValue, zpow_add_one₀ two_ne_zero]
      cases sign <;> simp [UnpackedFloat.Sign.apply] <;> ring
    rw [roundWithAccuracy_eq_unpackedOf shifted settled, carry, doubled]
    exact denotes_unpackedOf sign (by norm_num) (by omega) (by omega) (.inl le_rfl)

/-- A mantissa with more digits and a lower exponent denotes the same number. -/
theorem magnitudeValue_shiftLeft (mantissa : Nat) (exponent : ℤ) (shift : Nat) :
    magnitudeValue (mantissa <<< shift) (exponent - shift) =
      magnitudeValue mantissa exponent := by
  rw [magnitudeValue, magnitudeValue, Nat.shiftLeft_eq, zpow_sub₀ two_ne_zero, zpow_natCast]
  push_cast
  field_simp

theorem denotes_round (sign : UnpackedFloat.Sign) (positive : 0 < mantissa)
    (bounded : magnitudeValue mantissa exponent < 2 ^ 1023) :
    Denotes (round Format.binary64 sign mantissa exponent)
      (nearest (signedValue sign mantissa exponent)) := by
  have target :
      Format.binary64.targetExponent (Float.Model.totalExponent mantissa exponent) =
        stepExponent (magnitudeValue mantissa exponent) := by
    rw [targetExponent_eq, stepExponent_magnitudeValue positive]
  set shift := (exponent - stepExponent (magnitudeValue mantissa exponent)).toNat with amount
  have same := magnitudeValue_shiftLeft mantissa exponent shift
  have shifted : round Format.binary64 sign mantissa exponent =
      roundWithAccuracy Format.binary64 sign (mantissa <<< shift) (exponent - shift) .exact := by
    rw [UnpackedFloat.round, target]
    rfl
  have signed : signedValue sign mantissa exponent =
      signedValue sign (mantissa <<< shift) (exponent - shift) := by
    cases sign <;> simp only [signedValue_positive, signedValue_negative, same]
  have positiveShifted : 0 < mantissa <<< shift := by
    rw [Nat.shiftLeft_eq]
    positivity
  rw [shifted, signed]
  apply denotes_roundWithAccuracy sign positiveShifted
  · rw [same]
    omega
  · rw [same]
    exact bounded

end Rounding

/-- A whole number of powers of two is normalized to the nearest number. -/
theorem denotes_normalize {mantissa exponent : ℤ} (zeroSign : UnpackedFloat.Sign)
    (bounded : |(mantissa : ℚ) * 2 ^ exponent| < 2 ^ 1023) :
    Denotes (normalize Format.binary64 mantissa exponent zeroSign)
      (nearest (mantissa * 2 ^ exponent)) := by
  have scale : (0 : ℚ) < 2 ^ exponent := zpow_pos two_pos _
  have magnitude : |(mantissa : ℚ) * 2 ^ exponent| =
      magnitudeValue mantissa.natAbs exponent := by
    rw [abs_mul, abs_of_pos scale, magnitudeValue, Nat.cast_natAbs, Int.cast_abs]
  rw [magnitude] at bounded
  rcases lt_trichotomy mantissa 0 with negative | rfl | positive
  · have signed : (mantissa : ℚ) * 2 ^ exponent =
        signedValue .negative (-mantissa).toNat exponent := by
      have natural : ((-mantissa).toNat : ℤ) = -mantissa := by omega
      simp [signedValue, UnpackedFloat.Sign.apply, natural]
    have compared : compare mantissa 0 = .lt := compare_lt_iff_lt.mpr negative
    rw [UnpackedFloat.normalize, compared, signed]
    apply denotes_round _ (by omega)
    rwa [show (-mantissa).toNat = mantissa.natAbs by omega]
  · have compared : compare (0 : ℤ) 0 = .eq := rfl
    have zero : nearest (((0 : ℤ) : ℚ) * 2 ^ exponent) = 0 := by simp
    rw [UnpackedFloat.normalize, compared, zero]
    exact .zero zeroSign
  · have signed : (mantissa : ℚ) * 2 ^ exponent =
        signedValue .positive mantissa.toNat exponent := by
      have natural : (mantissa.toNat : ℤ) = mantissa := by omega
      simp [signedValue, UnpackedFloat.Sign.apply, natural]
    have compared : compare mantissa 0 = .gt := compare_gt_iff_gt.mpr positive
    rw [UnpackedFloat.normalize, compared, signed]
    apply denotes_round _ (by omega)
    rwa [show mantissa.toNat = mantissa.natAbs by omega]

/-! ## Differences -/

/-- A number at a lower exponent. -/
theorem signedValue_decreaseExponent (sign : UnpackedFloat.Sign) (mantissa : Nat)
    {exponent lower : ℤ} (below : lower ≤ exponent) :
    signedValue sign mantissa exponent =
      (sign.apply (decreaseExponent mantissa exponent lower).1 : ℤ) * 2 ^ lower := by
  obtain ⟨shift, rfl⟩ := Int.le.dest below
  have amount : (lower + shift - lower).toNat = shift := by omega
  have same := magnitudeValue_shiftLeft mantissa (lower + shift) shift
  rw [add_sub_cancel_right] at same
  simp only [decreaseExponent, amount]
  change _ = signedValue sign (mantissa <<< shift) lower
  cases sign <;> simp only [signedValue_positive, signedValue_negative, same]

/-- The difference of two numbers is the number nearest to their exact difference. -/
theorem Denotes.sub {first second : UnpackedFloat} {number other : ℚ}
    (denotes : Denotes first number) (denotesOther : Denotes second other)
    (bounded : |number - other| < 2 ^ 1023) :
    Denotes (sub Format.binary64 first second) (Binary64.nearest (number - other)) := by
  cases denotes with
  | zero sign =>
      cases denotesOther with
      | zero otherSign =>
          rw [sub_zero, nearest_zero, UnpackedFloat.sub]
          split
          · exact .zero _
          · exact .zero _
      | @finite otherSign mantissa exponent positive small lowest highest normal =>
          have opposite : Denotes (.neg (.finite otherSign mantissa exponent positive))
              (-signedValue otherSign mantissa exponent) :=
            (Denotes.finite positive small lowest highest normal).neg
          rw [zero_sub, opposite.nearest]
          exact opposite
  | @finite sign mantissa exponent positive small lowest highest normal =>
      cases denotesOther with
      | zero otherSign =>
          have same : Denotes (.finite sign mantissa exponent positive)
              (signedValue sign mantissa exponent) :=
            .finite positive small lowest highest normal
          rw [sub_zero, same.nearest]
          exact same
      | @finite otherSign otherMantissa otherExponent =>
          -- both are whole numbers of powers of two at the lower one of the exponents
          have difference :=
            congrArg₂ (· - ·)
              (signedValue_decreaseExponent sign mantissa (min_le_left exponent otherExponent))
              (signedValue_decreaseExponent otherSign otherMantissa
                (min_le_right exponent otherExponent))
          simp only [← sub_mul, ← Int.cast_sub] at difference
          rw [difference] at bounded ⊢
          exact denotes_normalize .positive bounded

/-- The difference of two floats. -/
theorem value?_sub {first second : Float} {number other : ℚ}
    (denotes : (ofFloat first).value? = some number)
    (denotesOther : (ofFloat second).value? = some other)
    (bounded : |number - other| < 2 ^ 1023) :
    (ofFloat (first - second)).value? = some (nearest (number - other)) :=
  ((denotes_unpack denotes).sub (denotes_unpack denotesOther) bounded).value?_pack

/-! ## Integers -/

theorem signedValue_mul (sign other : UnpackedFloat.Sign) (mantissa otherMantissa : Nat)
    (exponent otherExponent : ℤ) :
    signedValue sign mantissa exponent * signedValue other otherMantissa otherExponent =
      signedValue (sign * other) (mantissa * otherMantissa) (exponent + otherExponent) := by
  have signs : (sign * other).apply ((mantissa * otherMantissa : Nat) : ℤ) =
      sign.apply mantissa * other.apply otherMantissa := by
    rw [Nat.cast_mul]
    cases sign <;> cases other
    · exact (neg_mul_neg _ _).symm
    · exact (neg_mul _ _).symm
    · exact (mul_neg _ _).symm
    · rfl
  rw [signedValue, signedValue, signedValue, signs, zpow_add₀ two_ne_zero]
  push_cast
  ring

theorem abs_signedValue (sign : UnpackedFloat.Sign) (mantissa : Nat) (exponent : ℤ) :
    |signedValue sign mantissa exponent| = magnitudeValue mantissa exponent := by
  cases sign <;> simp [abs_of_nonneg, magnitudeValue_nonneg]

/-- The product of two numbers is the number nearest to their exact product. -/
theorem Denotes.mul {first second : UnpackedFloat} {number other : ℚ}
    (denotes : Denotes first number) (denotesOther : Denotes second other)
    (bounded : |number * other| < 2 ^ 1023) :
    Denotes (mul Format.binary64 first second) (Binary64.nearest (number * other)) := by
  cases denotes with
  | zero sign =>
      rw [zero_mul, nearest_zero]
      cases denotesOther <;> exact .zero _
  | @finite sign mantissa exponent positive small lowest highest normal =>
      cases denotesOther with
      | zero otherSign =>
          rw [mul_zero, nearest_zero]
          exact .zero _
      | @finite otherSign otherMantissa otherExponent otherPositive _ _ _ otherNormal =>
          rw [signedValue_mul] at bounded ⊢
          rw [abs_signedValue] at bounded
          have product : 0 < mantissa * otherMantissa := Nat.mul_pos positive otherPositive
          -- one of the mantissas has all its digits, or both exponents are the lowest
          have fine :
              52 ≤ (mantissa * otherMantissa).log2 ∨ exponent + otherExponent ≤ -1074 := by
            rw [Nat.le_log2 product.ne']
            rcases normal with digits | rfl
            · exact .inl (digits.trans (Nat.le_mul_of_pos_right _ otherPositive))
            · rcases otherNormal with digits | rfl
              · exact .inl (digits.trans (Nat.le_mul_of_pos_left _ positive))
              · exact .inr (by norm_num)
          apply denotes_roundWithAccuracy _ product _ bounded
          rw [stepExponent_magnitudeValue product]
          omega

/-- The product of two floats. -/
theorem value?_mul {first second : Float} {number other : ℚ}
    (denotes : (ofFloat first).value? = some number)
    (denotesOther : (ofFloat second).value? = some other)
    (bounded : |number * other| < 2 ^ 1023) :
    (ofFloat (first * second)).value? = some (nearest (number * other)) :=
  ((denotes_unpack denotes).mul (denotes_unpack denotesOther) bounded).value?_pack

theorem value?_toFloat {word : UInt64} (bounded : (word.toNat : ℚ) < 2 ^ 1023) :
    (ofFloat word.toFloat).value? = some (nearest word.toNat) := by
  have normalized : Denotes (normalize Format.binary64 word.toNat 0 .positive)
      (nearest (((word.toNat : ℤ) : ℚ) * 2 ^ (0 : ℤ))) := by
    apply denotes_normalize
    simpa using bounded
  rw [zpow_zero, mul_one, Int.cast_natCast] at normalized
  exact normalized.value?_pack

/-- The float with the value one. -/
theorem value?_one : (ofFloat (Float.ofBits 0x3FF0000000000000)).value? = some 1 := by
  have fields : ofFloat (Float.ofBits 0x3FF0000000000000) = .finite false (2 ^ 52) (-52) := rfl
  rw [fields, value?, magnitudeValue]
  norm_num

section Natural

variable {whole : Nat}

/-- A natural number of at most 53 binary digits is taken for a machine word. -/
theorem ofNat_of_small (small : whole < 2 ^ 53) :
    Float.ofNat whole = whole.toUInt64.toFloat * Float.ofBits 0x3FF0000000000000 := by
  have fast : whole < 2 ^ 53 ∧ 0 ≤ 22 := ⟨small, by norm_num⟩
  have unfolded : Float.ofNat whole = Float.ofScientific whole false 0 := rfl
  rw [unfolded, Float.ofScientific, dif_pos fast]
  rfl

theorem ofNat_of_large (large : 2 ^ 53 ≤ whole) :
    Float.ofNat whole = .ofModel (Float.Model.ofScientific whole 0) := by
  have slow : ¬ (whole < 2 ^ 53 ∧ 0 ≤ 22) := by omega
  have unfolded : Float.ofNat whole = Float.ofScientific whole false 0 := rfl
  rw [unfolded, Float.ofScientific, dif_neg slow]
  rfl

/-- A larger number is rounded once. -/
theorem ofScientific_zero (positive : 0 < whole) :
    UnpackedFloat.ofScientific Format.binary64 whole 0 =
      roundWithAccuracy Format.binary64 .positive (whole <<< 53 * 10 ^ 0) (-53 + 0) .exact := by
  have lowest : ¬ (0 : ℤ) < -(2 ^ Format.binary64.exponentBits + whole.log2) := by
    have : (0 : ℤ) ≤ 2 ^ Format.binary64.exponentBits := by positivity
    omega
  rw [UnpackedFloat.ofScientific, dif_neg positive.ne', if_neg (by decide), if_neg lowest,
    if_pos le_rfl]
  rfl

theorem denotes_ofScientific_zero (positive : 0 < whole) (bounded : (whole : ℚ) < 2 ^ 1023) :
    Denotes (UnpackedFloat.ofScientific Format.binary64 whole 0) (nearest whole) := by
  have shifted : 0 < whole <<< 53 * 10 ^ 0 := by
    rw [Nat.shiftLeft_eq]
    omega
  have same : magnitudeValue (whole <<< 53 * 10 ^ 0) (-53 + 0) = whole := by
    calc magnitudeValue (whole <<< 53 * 10 ^ 0) (-53 + 0)
        = magnitudeValue (whole <<< 53) (0 - (53 : Nat)) := by
          rw [pow_zero, mul_one]
          rfl
      _ = magnitudeValue whole 0 := magnitudeValue_shiftLeft whole 0 53
      _ = whole := by rw [magnitudeValue, zpow_zero, mul_one]
  have digits : 53 ≤ (whole <<< 53 * 10 ^ 0).log2 := by
    rw [Nat.le_log2 shifted.ne', Nat.shiftLeft_eq]
    omega
  have rounded : Denotes
      (roundWithAccuracy Format.binary64 .positive (whole <<< 53 * 10 ^ 0) (-53 + 0) .exact)
      (nearest (signedValue .positive (whole <<< 53 * 10 ^ 0) (-53 + 0))) := by
    apply denotes_roundWithAccuracy _ shifted
    · rw [stepExponent_magnitudeValue shifted]
      omega
    · rw [same]
      exact bounded
  rw [signedValue_positive, same] at rounded
  rw [ofScientific_zero positive]
  exact rounded

theorem value?_ofNat (bounded : (whole : ℚ) < 2 ^ 1023) :
    (ofFloat (Float.ofNat whole)).value? = some (nearest whole) := by
  rcases Nat.lt_or_ge whole (2 ^ 53) with small | large
  · have word : whole.toUInt64.toNat = whole := Nat.mod_eq_of_lt (by omega)
    have exact : nearest ((whole : ℤ) : ℚ) = (whole : ℤ) := nearest_intCast (by omega)
    rw [Int.cast_natCast] at exact
    have inRange : (whole.toUInt64.toNat : ℚ) < 2 ^ 1023 := by rwa [word]
    have converted := value?_toFloat inRange
    rw [word, exact] at converted
    have product := value?_mul converted value?_one (by simpa using bounded)
    rw [ofNat_of_small small, product, mul_one]
  · rw [ofNat_of_large large]
    exact (denotes_ofScientific_zero (by omega) bounded).value?_pack

end Natural

/-- An integer is taken for the number nearest to it. -/
theorem value?_ofInt {whole : ℤ} (bounded : |(whole : ℚ)| < 2 ^ 1023) :
    (ofFloat (Float.ofInt whole)).value? = some (nearest whole) := by
  match whole with
  | .ofNat natural =>
      have below : (natural : ℚ) < 2 ^ 1023 := by simpa using bounded
      have same : ((Int.ofNat natural : ℤ) : ℚ) = natural := Int.cast_natCast natural
      rw [same]
      exact value?_ofNat below
  | .negSucc natural =>
      have below : ((natural + 1 : Nat) : ℚ) < 2 ^ 1023 := by
        rw [← Nat.abs_cast, ← abs_neg]
        simpa using bounded
      have opposite := (denotes_unpack (value?_ofNat below)).neg.value?_pack
      rw [Int.cast_negSucc, nearest_neg]
      exact opposite

end IcuMessage.Binary64
