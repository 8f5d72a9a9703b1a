import IcuMessage.Proofs.Decimal.Neighbourhood
import IcuMessage.Proofs.Decimal.Rounding
import Mathlib.Data.Nat.Digits.Lemmas

/-!
# The shortest decimal numbers that read back as a float

`IsShortest` says of a decimal number that it reads back as a float, that no number with
fewer digits does, and that it is the nearest of those with as few digits, and the greater of
two that are equally near.  There is one such number at most (`IsShortest.unique`), and
`Shortest.decimal` is it (`Shortest.isShortest_decimal`).

The powers of ten are looked at one after the other, and in each of them only the two
multiples around the float: the numbers that read back as it have no gaps
(`Shortest.Interval.Contains.between`).  The coarsest power with a multiple among them has the
fewest digits, since a number with fewer digits would be on the other side of a power of ten,
and that would be a multiple of a coarser one (`Shortest.digitCount_le_one`).
-/

namespace IcuMessage

open Binary64

/-! ## What is shortest -/

/-- The number of digits of a coefficient, without zeros in front. -/
def digitCount (coefficient : Nat) : Nat :=
  (Nat.digits 10 coefficient).length

/-- One number is nearer to a float than another, or as near and not less. -/
def IsPreferred (float candidate other : ℚ) : Prop :=
  |candidate - float| < |other - float| ∨
    |candidate - float| = |other - float| ∧ other ≤ candidate

/-- The decimal number `significand * 10 ^ power` is the shortest that reads back as a
float. -/
structure IsShortest (float : ℚ) (significand : Nat) (power : ℤ) : Prop where
  readsBack : nearest (significand * 10 ^ power) = float
  fewest (coefficient : Nat) (place : ℤ) :
    nearest (coefficient * 10 ^ place) = float → digitCount significand ≤ digitCount coefficient
  preferred (coefficient : Nat) (place : ℤ) :
    nearest (coefficient * 10 ^ place) = float → digitCount coefficient = digitCount significand →
      IsPreferred float (significand * 10 ^ power) (coefficient * 10 ^ place)

section Preference

variable {float candidate other : ℚ}

theorem IsPreferred.antisymm (first : IsPreferred float candidate other)
    (second : IsPreferred float other candidate) : candidate = other := by
  rcases first with nearer | ⟨equal, least⟩
  · rcases second with further | ⟨equal, _⟩
    · linarith
    · linarith
  · rcases second with further | ⟨_, most⟩
    · linarith
    · linarith

theorem IsPreferred.trans {third : ℚ} (first : IsPreferred float candidate other)
    (second : IsPreferred float other third) : IsPreferred float candidate third := by
  rcases first with nearer | ⟨equal, least⟩ <;> rcases second with next | ⟨same, lesser⟩
  · exact .inl (nearer.trans next)
  · exact .inl (same ▸ nearer)
  · exact .inl (equal ▸ next)
  · exact .inr ⟨equal.trans same, lesser.trans least⟩

/-- Below a float the greater number is preferred. -/
theorem isPreferred_of_below (less : other ≤ candidate) (below : candidate ≤ float) :
    IsPreferred float candidate other := by
  rw [IsPreferred, abs_of_nonpos (by linarith), abs_of_nonpos (by linarith)]
  rcases less.lt_or_eq with less | rfl
  · left
    linarith
  · exact .inr ⟨rfl, le_rfl⟩

/-- Above a float the smaller number is preferred. -/
theorem isPreferred_of_above (more : candidate ≤ other) (above : float ≤ candidate) :
    IsPreferred float candidate other := by
  rw [IsPreferred, abs_of_nonneg (by linarith), abs_of_nonneg (by linarith)]
  rcases more.lt_or_eq with more | rfl
  · left
    linarith
  · exact .inr ⟨rfl, le_rfl⟩

/-- Of two numbers around a float the upper one is preferred if the float is not below the
middle of them. -/
theorem isPreferred_upper (above : float ≤ candidate) (middle : candidate + other ≤ 2 * float) :
    IsPreferred float candidate other := by
  rw [IsPreferred, abs_of_nonneg (by linarith), abs_of_nonpos (by linarith)]
  rcases middle.lt_or_eq with beyond | equal
  · left
    linarith
  · right
    constructor <;> linarith

/-- Of two numbers around a float the lower one is preferred if the float is below the middle
of them. -/
theorem isPreferred_lower (below : candidate ≤ float) (middle : 2 * float < candidate + other) :
    IsPreferred float candidate other := by
  rw [IsPreferred, abs_of_nonpos (by linarith), abs_of_nonneg (by linarith)]
  left
  linarith

end Preference

/-- There is one shortest number at most. -/
theorem IsShortest.unique {float : ℚ} {first second : Nat} {firstPower secondPower : ℤ}
    (shortest : IsShortest float first firstPower)
    (also : IsShortest float second secondPower) :
    (first * 10 ^ firstPower : ℚ) = second * 10 ^ secondPower := by
  have count : digitCount second = digitCount first :=
    le_antisymm (also.fewest _ _ shortest.readsBack) (shortest.fewest _ _ also.readsBack)
  exact (shortest.preferred _ _ also.readsBack count).antisymm
    (also.preferred _ _ shortest.readsBack count.symm)

section Digits

variable {coefficient : Nat}

theorem pow_ten_pos (place : ℤ) : (0 : ℚ) < 10 ^ place :=
  zpow_pos (by norm_num) _

/-- The power of ten below a power of ten. -/
theorem pow_pred_ten (power : ℤ) : (10 : ℚ) ^ (power - 1) = 10 ^ power / 10 := by
  rw [zpow_sub_one₀ (by norm_num), div_eq_mul_inv]

@[simp]
theorem digitCount_eq_zero : digitCount coefficient = 0 ↔ coefficient = 0 := by
  rw [digitCount, List.length_eq_zero_iff, Nat.digits_eq_nil_iff_eq_zero]

theorem digitCount_pos (positive : 0 < coefficient) : 0 < digitCount coefficient :=
  Nat.pos_of_ne_zero (mt digitCount_eq_zero.mp positive.ne')

theorem lt_pow_digitCount (coefficient : Nat) (place : ℤ) :
    (coefficient * 10 ^ place : ℚ) < 10 ^ (digitCount coefficient + place) := by
  have below : coefficient < 10 ^ digitCount coefficient := Nat.lt_base_pow_length_digits'
  have scale := pow_ten_pos place
  rw [zpow_add₀ (by norm_num), zpow_natCast]
  apply mul_lt_mul_of_pos_right _ scale
  exact_mod_cast below

theorem pow_digitCount_le (positive : 0 < coefficient) (place : ℤ) :
    (10 : ℚ) ^ (digitCount coefficient + place - 1) ≤ coefficient * 10 ^ place := by
  have above : 10 ^ digitCount coefficient ≤ 10 * coefficient :=
    Nat.base_pow_length_digits_le' 8 coefficient positive.ne'
  have scale := pow_ten_pos place
  have cast : (10 : ℚ) ^ digitCount coefficient ≤ 10 * coefficient := by exact_mod_cast above
  rw [pow_pred_ten, zpow_add₀ (by norm_num), zpow_natCast, div_le_iff₀ (by norm_num)]
  calc (10 : ℚ) ^ digitCount coefficient * 10 ^ place
      ≤ 10 * coefficient * 10 ^ place := mul_le_mul_of_nonneg_right cast scale.le
    _ = coefficient * 10 ^ place * 10 := by ring

/-- Zero has no digit that counts. -/
theorem isShortest_zero : IsShortest 0 0 0 := by
  have none : digitCount 0 = 0 := digitCount_eq_zero.mpr rfl
  refine ⟨by simp, fun _ _ _ => none ▸ Nat.zero_le _, fun coefficient place _ same => ?_⟩
  obtain rfl := digitCount_eq_zero.mp (same.trans none)
  simp [IsPreferred]

end Digits

namespace Shortest

/-! ## Multiples of a power of ten in an interval -/

section Multiples

variable {range : Interval} {power : ℤ}

/-- A power as a quotient of which one side is one. -/
theorem zpow_eq_div_pow {base : ℚ} (nonzero : base ≠ 0) (place : ℤ) :
    base ^ place = base ^ place.toNat / base ^ (-place).toNat := by
  rw [← zpow_natCast, ← zpow_natCast, ← zpow_sub₀ nonzero]
  congr 1
  omega

/-- A power of ten and the unit of an interval as multiples of one number. -/
theorem exists_unit (power exponent : ℤ) :
    ∃ unit : ℚ, 0 < unit ∧ (2 : ℚ) ^ exponent = (scale power exponent).binary * unit ∧
      (10 : ℚ) ^ power = (scale power exponent).decimal * unit := by
  refine ⟨1 / (2 ^ (-exponent).toNat * 10 ^ (-power).toNat), by positivity, ?_, ?_⟩
  · rw [zpow_eq_div_pow two_ne_zero, scale]
    push_cast [Nat.pow_eq]
    field_simp
  · rw [zpow_eq_div_pow (by norm_num), scale]
    push_cast [Nat.pow_eq]
    field_simp

/-- Positions are compared on natural numbers. -/
theorem position_le_iff (multiple quarters : Nat) (power exponent : ℤ) :
    multiple * (scale power exponent).decimal ≤ quarters * (scale power exponent).binary ↔
      (multiple * 10 ^ power : ℚ) ≤ quarters * 2 ^ exponent := by
  obtain ⟨unit, positive, binary, decimal⟩ := exists_unit power exponent
  rw [binary, decimal, ← mul_assoc, ← mul_assoc, mul_le_mul_iff_of_pos_right positive]
  exact_mod_cast Iff.rfl

theorem le_position_iff (multiple quarters : Nat) (power exponent : ℤ) :
    quarters * (scale power exponent).binary ≤ multiple * (scale power exponent).decimal ↔
      (quarters * 2 ^ exponent : ℚ) ≤ multiple * 10 ^ power := by
  obtain ⟨unit, positive, binary, decimal⟩ := exists_unit power exponent
  rw [binary, decimal, ← mul_assoc, ← mul_assoc, mul_le_mul_iff_of_pos_right positive]
  exact_mod_cast Iff.rfl

theorem holds_iff (multiple : Nat) :
    range.holds (scale power range.exponent) multiple = true ↔
      range.Contains (multiple * 10 ^ power) := by
  have lower := le_position_iff multiple range.lower power range.exponent
  have upper := position_le_iff multiple range.upper power range.exponent
  have above := position_le_iff multiple range.lower power range.exponent
  have below := le_position_iff multiple range.upper power range.exponent
  rw [← not_lt, ← not_lt, not_iff_not] at above below
  rw [Interval.Contains, Interval.start, Interval.stop, ← lower, ← upper, ← above, ← below,
    Interval.holds]
  split
  case isTrue closed =>
    simp only [closed, Bool.and_eq_true, decide_eq_true_eq, true_and]
    omega
  case isFalse notClosed =>
    simp only [notClosed, Bool.and_eq_true, decide_eq_true_eq, Bool.false_eq_true, false_and,
      or_false]

/-- The middle of an interval. -/
def Interval.middle (range : Interval) : ℚ :=
  range.centre * 2 ^ range.exponent

/-- The numbers of an interval have no gaps. -/
theorem Interval.Contains.between {lesser greater number : ℚ} (first : range.Contains lesser)
    (second : range.Contains greater) (above : lesser ≤ number) (below : number ≤ greater) :
    range.Contains number := by
  rcases first with ⟨start, _⟩ | ⟨closed, start, _⟩ <;>
    rcases second with ⟨_, stop⟩ | ⟨shut, _, stop⟩
  · exact .inl ⟨by linarith, by linarith⟩
  · exact .inr ⟨shut, by linarith, by linarith⟩
  · exact .inr ⟨closed, by linarith, by linarith⟩
  · exact .inr ⟨closed, by linarith, by linarith⟩

/-- The multiple of a power of ten below the middle. -/
def Interval.below (range : Interval) (power : ℤ) : Nat :=
  range.centre * (scale power range.exponent).binary / (scale power range.exponent).decimal

theorem decimal_pos (power exponent : ℤ) : 0 < (scale power exponent).decimal :=
  Nat.mul_pos (Nat.pow_pos (by norm_num)) (Nat.two_pow_pos _)

theorem below_le_middle (range : Interval) (power : ℤ) :
    (range.below power : ℚ) * 10 ^ power ≤ range.middle :=
  (position_le_iff _ _ _ _).mp (Nat.div_mul_le_self _ _)

theorem middle_lt_succ (range : Interval) (power : ℤ) :
    range.middle < ((range.below power + 1 : Nat) : ℚ) * 10 ^ power := by
  refine lt_of_not_ge fun beyond => ?_
  have more := (position_le_iff _ _ _ _).mpr beyond
  have less := Nat.lt_div_mul_add (a := range.centre * (scale power range.exponent).binary)
    (decimal_pos power range.exponent)
  rw [Interval.below, Nat.succ_mul] at more
  omega

/-- Each multiple is on one side of the middle. -/
theorem le_below_or_ge (range : Interval) (power : ℤ) (multiple : Nat) :
    (multiple * 10 ^ power : ℚ) ≤ range.below power * 10 ^ power ∨
      ((range.below power + 1 : Nat) : ℚ) * 10 ^ power ≤ multiple * 10 ^ power := by
  have scale := pow_ten_pos power
  rw [mul_le_mul_iff_of_pos_right scale, mul_le_mul_iff_of_pos_right scale, Nat.cast_le,
    Nat.cast_le]
  omega

/-- The middle of the interval is not below the middle of the two multiples around it. -/
theorem upperHalf_iff :
    (2 * range.below power + 1) * (scale power range.exponent).decimal ≤
        2 * (range.centre * (scale power range.exponent).binary) ↔
      (range.below power * 10 ^ power + (range.below power + 1 : Nat) * 10 ^ power : ℚ) ≤
        2 * range.middle := by
  rw [← Nat.mul_assoc, position_le_iff, Interval.middle]
  push_cast
  constructor <;> intro <;> linarith

theorem multiple?_eq :
    range.multiple? power =
      match range.holds (scale power range.exponent) (range.below power),
        range.holds (scale power range.exponent) (range.below power + 1) with
      | false, false => none
      | true, false => some (range.below power)
      | false, true => some (range.below power + 1)
      | true, true =>
          if (2 * range.below power + 1) * (scale power range.exponent).decimal ≤
              2 * (range.centre * (scale power range.exponent).binary) then
            some (range.below power + 1)
          else some (range.below power) :=
  rfl

/-- What is found is in the interval and preferred to all other multiples there. -/
theorem multiple?_eq_some (inside : range.Contains range.middle) {significand : Nat}
    (found : range.multiple? power = some significand) :
    range.Contains (significand * 10 ^ power) ∧
      ∀ other : Nat, range.Contains (other * 10 ^ power) →
        IsPreferred range.middle (significand * 10 ^ power) (other * 10 ^ power) := by
  have lower := below_le_middle range power
  have upper := middle_lt_succ range power
  have sides := le_below_or_ge range power
  rw [multiple?_eq] at found
  split at found
  case h_1 => cases found
  case h_2 holdsLower missesUpper =>
    obtain rfl := Option.some.inj found
    rw [holds_iff] at holdsLower
    rw [← Bool.not_eq_true, holds_iff] at missesUpper
    refine ⟨holdsLower, fun other contains => ?_⟩
    rcases sides other with less | more
    · exact isPreferred_of_below less lower
    · exact absurd (inside.between contains upper.le more) missesUpper
  case h_3 missesLower holdsUpper =>
    obtain rfl := Option.some.inj found
    rw [holds_iff] at holdsUpper
    rw [← Bool.not_eq_true, holds_iff] at missesLower
    refine ⟨holdsUpper, fun other contains => ?_⟩
    rcases sides other with less | more
    · exact absurd (contains.between inside less lower) missesLower
    · exact isPreferred_of_above more upper.le
  case h_4 holdsLower holdsUpper =>
    rw [holds_iff] at holdsLower holdsUpper
    split at found
    case isTrue upperHalf =>
      rw [upperHalf_iff] at upperHalf
      obtain rfl := Option.some.inj found
      refine ⟨holdsUpper, fun other contains => ?_⟩
      rcases sides other with less | more
      · exact (isPreferred_upper upper.le (by linarith)).trans (isPreferred_of_below less lower)
      · exact isPreferred_of_above more upper.le
    case isFalse lowerHalf =>
      rw [upperHalf_iff, not_le] at lowerHalf
      obtain rfl := Option.some.inj found
      refine ⟨holdsLower, fun other contains => ?_⟩
      rcases sides other with less | more
      · exact isPreferred_of_below less lower
      · exact (isPreferred_lower lower lowerHalf).trans (isPreferred_of_above more upper.le)

/-- Where nothing is found, the interval has no multiple of the power. -/
theorem multiple?_eq_none (inside : range.Contains range.middle)
    (none : range.multiple? power = none) (multiple : Nat) :
    ¬ range.Contains (multiple * 10 ^ power) := by
  have lower := below_le_middle range power
  have upper := middle_lt_succ range power
  intro contains
  rw [multiple?_eq] at none
  split at none
  case h_1 missesLower missesUpper =>
    rw [← Bool.not_eq_true, holds_iff] at missesLower missesUpper
    rcases le_below_or_ge range power multiple with less | more
    · exact missesLower (contains.between inside less lower)
    · exact missesUpper (inside.between contains upper.le more)
  case h_2 => cases none
  case h_3 => cases none
  case h_4 => split at none <;> cases none

end Multiples

/-! ## The search -/

section Search

variable {range : Interval} {power : ℤ} {count : Nat}

/-- The search stops at the coarsest power that has a multiple. -/
theorem search_eq_some {significand : Nat} {found : ℤ}
    (hit : search range power count = some (significand, found)) :
    range.multiple? found = some significand ∧
      ∀ coarser, found < coarser → coarser ≤ power → range.multiple? coarser = none := by
  fun_induction search range power count with
  | case1 power => cases hit
  | case2 power count multiple here =>
      cases hit
      exact ⟨here, fun coarser beyond within => absurd beyond (not_lt.mpr within)⟩
  | case3 power count missing ih =>
      rcases ih hit with
        ⟨here, others⟩
      refine ⟨here, fun coarser beyond within => ?_⟩
      rcases within.lt_or_eq with less | rfl
      · exact others coarser beyond (by omega)
      · exact missing

/-- The search fails only if none of the powers has a multiple. -/
theorem search_eq_none (fails : search range power count = none) {tried : ℤ}
    (within : tried ≤ power) (reached : power - count < tried) : range.multiple? tried = none := by
  fun_induction search range power count with
  | case1 power => omega
  | case2 power count multiple here => cases fails
  | case3 power count missing ih =>
      rcases within.lt_or_eq with less | rfl
      · exact ih fails (by omega) (by push_cast at reached; omega)
      · exact missing

end Search

/-! ## The interval of a float -/

section Floats

variable {mantissa : Nat} {exponent : ℤ}

theorem middle_interval :
    (interval mantissa exponent).middle = magnitudeValue mantissa exponent := by
  rw [Interval.middle, interval, magnitudeValue]
  simp only [quarter_step]
  push_cast
  ring

theorem contains_middle (canonical : IsCanonical mantissa exponent) :
    (interval mantissa exponent).Contains (interval mantissa exponent).middle := by
  rw [middle_interval, contains_iff_nearest canonical (magnitudeValue_nonneg _ _)]
  exact nearest_magnitudeValue canonical.small canonical.lowest

/-- A multiple reads back as a float exactly if it is in its interval. -/
theorem contains_multiple_iff (canonical : IsCanonical mantissa exponent) (multiple : Nat)
    (power : ℤ) :
    (interval mantissa exponent).Contains (multiple * 10 ^ power) ↔
      nearest (multiple * 10 ^ power) = magnitudeValue mantissa exponent :=
  contains_iff_nearest canonical
    (mul_nonneg (Nat.cast_nonneg _) (pow_ten_pos _).le)

/-- The interval does not reach further than half a step upwards. -/
theorem le_stop_of_contains {number : ℚ}
    (contains : (interval mantissa exponent).Contains number) :
    number ≤ (mantissa + 1 / 2) * 2 ^ exponent := by
  rw [← stop_interval]
  rcases contains with ⟨_, upper⟩ | ⟨_, _, upper⟩
  · exact upper.le
  · exact upper

theorem contains_of_le_lt (canonical : IsCanonical mantissa exponent) {number : ℚ}
    (lower : magnitudeValue mantissa exponent ≤ number)
    (upper : number < (mantissa + 1 / 2) * 2 ^ exponent) :
    (interval mantissa exponent).Contains number := by
  rw [← middle_interval] at lower
  rw [← stop_interval] at upper
  rcases contains_middle canonical with ⟨start, _⟩ | ⟨closed, start, _⟩
  · exact .inl ⟨by linarith, upper⟩
  · exact .inr ⟨closed, by linarith, upper.le⟩

theorem pos_of_contains (canonical : IsCanonical mantissa exponent) {multiple : Nat} {power : ℤ}
    (contains : (interval mantissa exponent).Contains (multiple * 10 ^ power)) :
    0 < multiple := by
  rw [contains_multiple_iff canonical] at contains
  refine Nat.pos_of_ne_zero ?_
  rintro rfl
  rw [Nat.cast_zero, zero_mul, nearest_zero] at contains
  exact canonical.value_pos.ne contains

/-- The smallest step lies between two powers of ten. -/
theorem smallest_step :
    (2.02 : ℚ) * 2 ^ (-1074 : ℤ) < 10 ^ (-323 : ℤ) ∧
      (10 : ℚ) ^ (-323 : ℤ) < 2.03 * 2 ^ (-1074 : ℤ) := by
  have natural : 202 * 10 ^ 323 < 100 * 2 ^ 1074 ∧ 100 * 2 ^ 1074 < 203 * 10 ^ 323 := by
    decide +kernel
  have lower : (202 * 10 ^ 323 : ℚ) < 100 * 2 ^ 1074 := by exact_mod_cast natural.1
  have upper : (100 * 2 ^ 1074 : ℚ) < 203 * 10 ^ 323 := by exact_mod_cast natural.2
  have binary : (0 : ℚ) < 2 ^ 1074 := pow_pos two_pos _
  have decimal : (0 : ℚ) < 10 ^ 323 := pow_pos (by norm_num) _
  rw [zpow_neg, zpow_neg, zpow_ofNat, zpow_ofNat]
  generalize (2 : ℚ) ^ 1074 = steps at *
  generalize (10 : ℚ) ^ 323 = tens at *
  rw [← div_eq_mul_inv, ← div_eq_mul_inv, inv_eq_one_div, div_lt_div_iff₀ binary decimal,
    div_lt_div_iff₀ decimal binary]
  constructor <;> linarith

/-- An interval has a multiple of a power of ten that is smaller than half a step. -/
theorem multiple?_ne_none (canonical : IsCanonical mantissa exponent) {power : ℤ}
    (fine : (10 : ℚ) ^ power < 2 ^ exponent / 2) :
    (interval mantissa exponent).multiple? power ≠ none := by
  intro none
  have lower := below_le_middle (interval mantissa exponent) power
  have upper := middle_lt_succ (interval mantissa exponent) power
  refine multiple?_eq_none (contains_middle canonical) none _
    (contains_of_le_lt canonical (middle_interval ▸ upper.le) ?_)
  rw [middle_interval, magnitudeValue] at lower
  push_cast
  linarith

/-- The finest power of ten that is tried is smaller than half of any step. -/
theorem finest_lt (canonical : IsCanonical mantissa exponent) :
    (10 : ℚ) ^ (-323 - 1 : ℤ) < 2 ^ exponent / 2 := by
  have fine : (2 : ℚ) ^ (-1074 : ℤ) ≤ 2 ^ exponent :=
    zpow_le_zpow_right₀ one_le_two canonical.lowest
  have tenfold := smallest_step.2
  rw [pow_pred_ten]
  generalize (2 : ℚ) ^ (-1074 : ℤ) = smallest at *
  generalize (10 : ℚ) ^ (-323 : ℤ) = tenth at *
  have positive : (0 : ℚ) < 2 ^ exponent := zpow_pos two_pos _
  linarith

/-- No interval has a multiple of a power that is coarser than those that are tried. -/
theorem place_le_greatestPower (canonical : IsCanonical mantissa exponent) {multiple : Nat}
    {place : ℤ} (contains : (interval mantissa exponent).Contains (multiple * 10 ^ place)) :
    place ≤ greatestPower := by
  by_contra coarser
  have positive : (1 : ℚ) ≤ multiple := by exact_mod_cast pos_of_contains canonical contains
  have small : (mantissa : ℚ) + 1 ≤ 2 ^ 53 := by exact_mod_cast canonical.small
  have natural : 2 ^ 53 * 2 ^ 971 < 10 ^ 310 := by decide +kernel
  have far : (2 : ℚ) ^ 53 * 2 ^ 971 < 10 ^ 310 := by exact_mod_cast natural
  have beyond : (2 : ℚ) ^ 53 * 2 ^ 971 < 2 ^ 53 * 2 ^ 971 :=
    calc (2 : ℚ) ^ 53 * 2 ^ 971 < 10 ^ 310 := far
      _ = 10 ^ (310 : ℤ) := (zpow_ofNat _ _).symm
      _ ≤ 10 ^ place :=
        zpow_le_zpow_right₀ (by norm_num) (by rw [greatestPower] at coarser; omega)
      _ ≤ multiple * 10 ^ place := le_mul_of_one_le_left (pow_ten_pos _).le positive
      _ ≤ (mantissa + 1 / 2) * 2 ^ exponent := le_stop_of_contains contains
      _ ≤ 2 ^ 53 * 2 ^ exponent :=
        mul_le_mul_of_nonneg_right (by linarith) (zpow_pos two_pos _).le
      _ ≤ 2 ^ 53 * 2 ^ (971 : ℤ) :=
        mul_le_mul_of_nonneg_left (zpow_le_zpow_right₀ one_le_two canonical.highest)
          (pow_pos two_pos _).le
      _ = 2 ^ 53 * 2 ^ 971 := by rw [zpow_ofNat]
  exact lt_irrefl _ beyond

/-- A float of which a twentieth is less than half a step is one of the nine smallest. -/
theorem lowest_of_coarse (canonical : IsCanonical mantissa exponent) {number : ℚ}
    (coarse : magnitudeValue mantissa exponent < 0.95 * number)
    (upper : number ≤ (mantissa + 1 / 2) * 2 ^ exponent) :
    exponent = -1074 ∧ number < 10 * 2 ^ (-1074 : ℤ) := by
  have scale : (0 : ℚ) < 2 ^ exponent := zpow_pos two_pos _
  rw [magnitudeValue] at coarse
  have few : (mantissa : ℚ) < 10 := by
    by_contra many
    have : (10 : ℚ) * 2 ^ exponent ≤ mantissa * 2 ^ exponent :=
      mul_le_mul_of_nonneg_right (not_lt.mp many) scale.le
    linarith
  have lowest : exponent = -1074 := by
    have : mantissa < 10 := by exact_mod_cast few
    exact canonical.normal.resolve_left (by omega)
  refine ⟨lowest, ?_⟩
  rw [← lowest]
  linarith

/-- A power of ten in the interval of a float is not far above it: that could be only for
the smallest floats, among which there is but one power of ten. -/
theorem le_of_power_of_ten (canonical : IsCanonical mantissa exponent) {power : ℤ}
    (contains : (interval mantissa exponent).Contains (10 ^ power))
    (above : magnitudeValue mantissa exponent < 10 ^ power) :
    0.95 * 10 ^ power ≤ magnitudeValue mantissa exponent := by
  by_contra coarse
  have upper := le_stop_of_contains contains
  rcases lowest_of_coarse canonical (not_le.mp coarse) upper with
    ⟨rfl, small⟩
  have one : (1 : ℚ) ≤ mantissa := by exact_mod_cast canonical.positive
  have ten : (1 : ℚ) < 10 := by norm_num
  have smallestPositive : (0 : ℚ) < 2 ^ (-1074 : ℤ) := zpow_pos two_pos _
  have more := zpow_lt_zpow_iff_right₀ (m := -323 - 1) (n := power) ten
  have less := zpow_lt_zpow_iff_right₀ (m := power - 1) (n := -323) ten
  obtain ⟨lower, greater⟩ := smallest_step
  rw [magnitudeValue] at above coarse
  rw [pow_pred_ten] at more less
  -- nothing but the two bounds of `smallest_step` is used of the two powers
  generalize (2 : ℚ) ^ (-1074 : ℤ) = smallest at *
  generalize tenthPower : (10 : ℚ) ^ (-323 : ℤ) = tenth at *
  have least : 1 * smallest ≤ mantissa * smallest :=
    mul_le_mul_of_nonneg_right one smallestPositive.le
  have only : (10 : ℚ) ^ power = tenth := by
    have finer := more.mp (by linarith)
    have coarser := less.mp (by linarith)
    rw [← tenthPower]
    congr 1
    omega
  rw [only] at upper above coarse
  have single : mantissa = 1 := by
    by_contra different
    have several : (2 : ℚ) ≤ mantissa := by
      have := canonical.positive
      exact_mod_cast (by omega : 2 ≤ mantissa)
    have : 2 * smallest ≤ mantissa * smallest :=
      mul_le_mul_of_nonneg_right several smallestPositive.le
    linarith
  rw [single] at upper
  push_cast at upper
  linarith

/-! ## The coarsest power of ten -/

section Coarsest

variable {significand coefficient : Nat} {power place : ℤ}

/-- Between a number and one that begins at a lower place there is a power of ten. -/
theorem contains_power_between (canonical : IsCanonical mantissa exponent)
    (contains : (interval mantissa exponent).Contains (significand * 10 ^ power))
    (other : (interval mantissa exponent).Contains (coefficient * 10 ^ place))
    (lower : digitCount coefficient + place < digitCount significand + power) :
    (coefficient * 10 ^ place : ℚ) ≤ 10 ^ (digitCount significand + power - 1) ∧
      (interval mantissa exponent).Contains (10 ^ (digitCount significand + power - 1)) := by
  have below : (coefficient * 10 ^ place : ℚ) ≤ 10 ^ (digitCount significand + power - 1) :=
    calc (coefficient * 10 ^ place : ℚ)
        ≤ 10 ^ (digitCount coefficient + place) := (lt_pow_digitCount coefficient place).le
      _ ≤ 10 ^ (digitCount significand + power - 1) :=
        zpow_le_zpow_right₀ (by norm_num) (by omega)
  exact ⟨below, other.between contains below
    (pow_digitCount_le (pos_of_contains canonical contains) power)⟩

variable (coarsest : ∀ (coefficient : Nat) (place : ℤ),
  (interval mantissa exponent).Contains (coefficient * 10 ^ place) → place ≤ power)
include coarsest

/-- With the coarsest power of ten, a number has one digit only if it does not begin at the
lowest place. -/
theorem digitCount_le_one
    (between : (interval mantissa exponent).Contains
      (10 ^ (digitCount significand + power - 1))) :
    digitCount significand ≤ 1 := by
  have multiple := coarsest 1 (digitCount significand + power - 1) (by simpa using between)
  omega

/-- The coarsest power of ten has the fewest digits. -/
theorem digitCount_le (canonical : IsCanonical mantissa exponent)
    (contains : (interval mantissa exponent).Contains (significand * 10 ^ power))
    (other : (interval mantissa exponent).Contains (coefficient * 10 ^ place)) :
    digitCount significand ≤ digitCount coefficient := by
  by_contra fewer
  have finer := coarsest coefficient place other
  have between := contains_power_between canonical contains other (by omega)
  have single := digitCount_le_one coarsest between.2
  have some := digitCount_pos (pos_of_contains canonical other)
  omega

/-- The number that is preferred among the multiples of the coarsest power of ten is preferred
among all that have as few digits. -/
theorem isPreferred_of_coarsest (canonical : IsCanonical mantissa exponent)
    (contains : (interval mantissa exponent).Contains (significand * 10 ^ power))
    (preferred : ∀ other : Nat, (interval mantissa exponent).Contains (other * 10 ^ power) →
      IsPreferred (magnitudeValue mantissa exponent) (significand * 10 ^ power)
        (other * 10 ^ power))
    (other : (interval mantissa exponent).Contains (coefficient * 10 ^ place))
    (same : digitCount coefficient = digitCount significand) :
    IsPreferred (magnitudeValue mantissa exponent) (significand * 10 ^ power)
      (coefficient * 10 ^ place) := by
  rcases (coarsest coefficient place other).lt_or_eq with finer | rfl
  · obtain ⟨below, between⟩ := contains_power_between canonical contains other (by omega)
    have single : digitCount significand = 1 :=
      le_antisymm (digitCount_le_one coarsest between)
        (digitCount_pos (pos_of_contains canonical contains))
    have unit : (digitCount significand + power - 1 : ℤ) = power := by omega
    rw [unit] at below between
    have toUnit := preferred 1 (by simpa using between)
    rw [Nat.cast_one, one_mul] at toUnit
    apply toUnit.trans
    rcases le_or_gt ((10 : ℚ) ^ power) (magnitudeValue mantissa exponent) with less | above
    · exact isPreferred_of_below below less
    · -- one digit of a finer power is at most nine tenths
      apply isPreferred_upper above.le
      have near := le_of_power_of_ten canonical between above
      have digit : coefficient ≤ 9 := by
        have : coefficient < 10 ^ digitCount coefficient := Nat.lt_base_pow_length_digits'
        rw [same, single] at this
        omega
      have cast : (coefficient : ℚ) ≤ 9 := by exact_mod_cast digit
      have tenths : (coefficient * 10 ^ place : ℚ) ≤ 9 * (10 ^ power / 10) :=
        calc (coefficient * 10 ^ place : ℚ)
            ≤ 9 * 10 ^ place := mul_le_mul_of_nonneg_right cast (pow_ten_pos _).le
          _ ≤ 9 * 10 ^ (power - 1) :=
            mul_le_mul_of_nonneg_left (zpow_le_zpow_right₀ (by norm_num) (by omega)) (by norm_num)
          _ = 9 * (10 ^ power / 10) := by rw [pow_pred_ten]
      linarith
  · exact preferred coefficient other

end Coarsest

/-! ## The shortest number -/

/-- The search finds a power of ten, and none that is coarser has a number in the interval. -/
theorem search_interval (canonical : IsCanonical mantissa exponent) :
    ∃ significand power,
      search (interval mantissa exponent) greatestPower 634 = some (significand, power) ∧
        (interval mantissa exponent).multiple? power = some significand ∧
        ∀ (coefficient : Nat) (place : ℤ),
          (interval mantissa exponent).Contains (coefficient * 10 ^ place) → place ≤ power := by
  have inside := contains_middle canonical
  match hit : search (interval mantissa exponent) greatestPower 634 with
  | none =>
      exfalso
      exact multiple?_ne_none canonical (finest_lt canonical)
        (search_eq_none hit (by decide) (by decide))
  | some (significand, power) =>
      rcases search_eq_some hit with
        ⟨found, others⟩
      refine ⟨significand, power, rfl, found, fun coefficient place contains => ?_⟩
      by_contra coarser
      exact multiple?_eq_none inside
        (others place (not_le.mp coarser) (place_le_greatestPower canonical contains))
        coefficient contains

theorem value_decimalOf (multiple : Nat) (power : ℤ) :
    (decimalOf multiple power).value = multiple * 10 ^ power := by
  rw [Decimal.value, decimalOf, zpow_eq_div_pow (by norm_num)]
  push_cast [Nat.pow_eq]
  ring

/-- The decimal number of a float that is not zero is the shortest that reads back as it. -/
theorem isShortest_decimal_of_canonical (canonical : IsCanonical mantissa exponent) :
    ∃ significand power,
      IsShortest (magnitudeValue mantissa exponent) significand power ∧
        (decimal mantissa exponent).value = significand * 10 ^ power := by
  rcases search_interval canonical with
    ⟨significand, power, hit, found, coarsest⟩
  rcases multiple?_eq_some (contains_middle canonical) found with
    ⟨contains, preferred⟩
  rw [middle_interval] at preferred
  refine ⟨significand, power, ⟨?readsBack, ?fewest, ?preferred⟩, ?value⟩
  case readsBack => exact (contains_multiple_iff canonical _ _).mp contains
  case fewest =>
    intro coefficient place readsBack
    exact digitCount_le coarsest canonical contains
      ((contains_multiple_iff canonical _ _).mpr readsBack)
  case preferred =>
    intro coefficient place readsBack same
    exact isPreferred_of_coarsest coarsest canonical contains preferred
      ((contains_multiple_iff canonical _ _).mpr readsBack) same
  case value => rw [decimal, if_neg canonical.positive.ne', hit, value_decimalOf]

/-- The decimal number of a float is the shortest that reads back as it. -/
theorem isShortest_decimal {value : Float} {negative : Bool}
    (finite : ofFloat value = .finite negative mantissa exponent) :
    ∃ significand power,
      IsShortest (magnitudeValue mantissa exponent) significand power ∧
        (decimal mantissa exponent).value = significand * 10 ^ power := by
  rcases Nat.eq_zero_or_pos mantissa with rfl | positive
  · have zero : magnitudeValue 0 exponent = 0 := by simp [magnitudeValue]
    exact ⟨0, 0, zero ▸ isShortest_zero, by simp [decimal, Decimal.value]⟩
  · exact isShortest_decimal_of_canonical (isCanonical_of_ofFloat finite positive)

end Floats

end Shortest

end IcuMessage
