import IcuMessage.Decimal.Shortest
import IcuMessage.Proofs.Decimal.Nearest

/-!
# The numbers that read back as a float

The numbers to which one float is nearest form an interval around it.
`Shortest.contains_iff_nearest` shows that `Shortest.interval` is this interval: it
reaches half a step to either side, and only a quarter of a step below a power of two, where
the steps get smaller; its ends belong to it if the mantissa is even.
-/

namespace IcuMessage

open Binary64

/-- A mantissa and an exponent in the form in which 64 bits hold them. -/
structure IsCanonical (mantissa : Nat) (exponent : ℤ) : Prop where
  positive : 0 < mantissa
  small : mantissa < 2 ^ 53
  lowest : -1074 ≤ exponent
  highest : exponent ≤ 971
  normal : 2 ^ 52 ≤ mantissa ∨ exponent = -1074

theorem IsCanonical.value_pos {mantissa : Nat} {exponent : ℤ}
    (canonical : IsCanonical mantissa exponent) : 0 < magnitudeValue mantissa exponent :=
  mul_pos (Nat.cast_pos.mpr canonical.positive) (zpow_pos two_pos _)

/-- The fields of a number of 64 bits are in canonical form, unless it is zero. -/
theorem isCanonical_of_ofFloat {value : Float} {negative : Bool} {mantissa : Nat} {exponent : ℤ}
    (finite : ofFloat value = .finite negative mantissa exponent) (positive : 0 < mantissa) :
    IsCanonical mantissa exponent := by
  rw [ofFloat, ofBits, ofFields] at finite
  simp only [Nat.pow_eq] at finite
  have fraction : value.toBits.toNat % 2 ^ 52 < 2 ^ 52 := Nat.mod_lt _ (by norm_num)
  have field : value.toBits.toNat / 2 ^ 52 % 2048 < 2048 := Nat.mod_lt _ (by norm_num)
  split at finite
  case isTrue => split at finite <;> cases finite
  case isFalse notLast =>
    split at finite
    case isTrue =>
      cases finite
      exact ⟨positive, by omega, by omega, by omega, .inr rfl⟩
    case isFalse =>
      cases finite
      exact ⟨positive, by omega, by omega, by omega, .inl (by omega)⟩

namespace Shortest

/-- The lower end of an interval. -/
def Interval.start (range : Interval) : ℚ :=
  range.lower * 2 ^ range.exponent

/-- The upper end of an interval. -/
def Interval.stop (range : Interval) : ℚ :=
  range.upper * 2 ^ range.exponent

/-- A number lies in an interval. -/
def Interval.Contains (range : Interval) (number : ℚ) : Prop :=
  range.start < number ∧ number < range.stop ∨
    range.closed ∧ range.start ≤ number ∧ number ≤ range.stop

variable {mantissa : Nat} {exponent : ℤ} {number : ℚ}

/-! ## The ends -/

/-- Below the mantissa the steps get smaller. -/
def IsBoundary (mantissa : Nat) (exponent : ℤ) : Prop :=
  mantissa = 2 ^ 52 ∧ -1074 < exponent

theorem IsBoundary.even (boundary : IsBoundary mantissa exponent) : Even mantissa := by
  rw [boundary.1]
  decide

theorem quarter_step (exponent : ℤ) : (2 : ℚ) ^ (exponent - 2) = 2 ^ exponent / 4 := by
  rw [zpow_sub₀ two_ne_zero]
  norm_num

theorem stop_interval : (interval mantissa exponent).stop = (mantissa + 1 / 2) * 2 ^ exponent := by
  rw [Interval.stop, interval]
  simp only [quarter_step]
  push_cast
  ring

theorem start_interval_of_not_boundary (positive : 0 < mantissa)
    (inside : ¬ IsBoundary mantissa exponent) :
    (interval mantissa exponent).start = (mantissa - 1 / 2) * 2 ^ exponent := by
  rw [Interval.start, interval]
  simp only [quarter_step, Nat.pow_eq]
  have regular : ¬ (mantissa = 2 ^ 52 ∧ -1074 < exponent) := inside
  rw [if_neg regular, Nat.cast_sub (by omega)]
  push_cast
  ring

theorem start_interval_of_boundary (boundary : IsBoundary mantissa exponent) :
    (interval mantissa exponent).start = (mantissa - 1 / 4) * 2 ^ exponent := by
  have positive : 0 < mantissa := by
    rw [boundary.1]
    norm_num
  rw [Interval.start, interval]
  simp only [quarter_step, Nat.pow_eq]
  have halved : mantissa = 2 ^ 52 ∧ -1074 < exponent := boundary
  rw [if_pos halved, Nat.cast_sub (by omega)]
  push_cast
  ring

theorem closed_interval : (interval mantissa exponent).closed = true ↔ Even mantissa := by
  rw [Nat.even_iff]
  simp [interval]

/-! ## Inside of a range of steps -/

/-- Where all steps are of one size, the interval is that of the numbers whose nearest whole
number of steps is the mantissa. -/
theorem contains_iff_isNearestEven (positive : 0 < mantissa)
    (inside : ¬ IsBoundary mantissa exponent) :
    (interval mantissa exponent).Contains number ↔
      IsNearestEven (number / 2 ^ exponent) mantissa := by
  have scale : (0 : ℚ) < 2 ^ exponent := zpow_pos two_pos _
  obtain ⟨steps, rfl⟩ : ∃ steps, number = steps * 2 ^ exponent :=
    ⟨number / 2 ^ exponent, (div_mul_cancel₀ _ scale.ne').symm⟩
  rw [Interval.Contains, closed_interval, stop_interval,
    start_interval_of_not_boundary positive inside, mul_div_cancel_right₀ _ scale.ne',
    IsNearestEven.iff_between]
  simp only [mul_lt_mul_iff_of_pos_right scale, mul_le_mul_iff_of_pos_right scale,
    Int.cast_natCast, Int.even_coe_nat]

/-- At a power of two the ends belong to the interval. -/
theorem contains_iff_of_boundary (boundary : IsBoundary mantissa exponent) :
    (interval mantissa exponent).Contains number ↔
      (mantissa - 1 / 4) * 2 ^ exponent ≤ number ∧
        number ≤ (mantissa + 1 / 2) * 2 ^ exponent := by
  rw [Interval.Contains, closed_interval, stop_interval, start_interval_of_boundary boundary]
  constructor
  · rintro (⟨lower, upper⟩ | ⟨_, lower, upper⟩)
    · exact ⟨lower.le, upper.le⟩
    · exact ⟨lower, upper⟩
  · rintro ⟨lower, upper⟩
    exact .inr ⟨boundary.even, lower, upper⟩

/-! ## The numbers whose nearest float is given -/

theorem nearest_mul_zpow {steps : ℚ} {whole : ℤ}
    (around : stepExponent (steps * 2 ^ exponent) = exponent)
    (near : IsNearestEven steps whole) :
    nearest (steps * 2 ^ exponent) = whole * 2 ^ exponent := by
  have scale : (2 : ℚ) ^ exponent ≠ 0 := zpow_ne_zero _ two_ne_zero
  rw [nearest, step, around, mul_div_cancel_right₀ _ scale, nearestEven_eq_iff.mpr near]

/-- The numbers that are nearest to a mantissa are taken for the float, where the steps are not
smaller. -/
theorem nearest_of_isNearestEven (canonical : IsCanonical mantissa exponent)
    (near : IsNearestEven (number / 2 ^ exponent) mantissa)
    (above : IsBoundary mantissa exponent → mantissa * 2 ^ exponent ≤ number) :
    nearest number = magnitudeValue mantissa exponent := by
  have scale : (0 : ℚ) < 2 ^ exponent := zpow_pos two_pos _
  obtain ⟨steps, rfl⟩ : ∃ steps, number = steps * 2 ^ exponent :=
    ⟨number / 2 ^ exponent, (div_mul_cancel₀ _ scale.ne').symm⟩
  rw [mul_div_cancel_right₀ _ scale.ne'] at near
  rw [mul_le_mul_iff_of_pos_right scale] at above
  have distance := abs_le.mp near.distance_le
  push_cast at distance
  have least : (1 : ℚ) ≤ mantissa := by exact_mod_cast canonical.positive
  have greatest : (mantissa : ℚ) + 1 ≤ 2 ^ 53 := by exact_mod_cast canonical.small
  have enough : 2 ^ 52 ≤ steps ∨ exponent = -1074 := by
    by_cases lowest : exponent = -1074
    · exact .inr lowest
    · left
      have normal := canonical.normal.resolve_right lowest
      rcases normal.eq_or_lt with equal | more
      · have further : -1074 < exponent := lt_of_le_of_ne canonical.lowest (Ne.symm lowest)
        calc (2 : ℚ) ^ 52 = mantissa := by exact_mod_cast equal
          _ ≤ steps := above ⟨equal.symm, further⟩
      · have : (2 : ℚ) ^ 52 + 1 ≤ mantissa := by exact_mod_cast more
        linarith
  have around : stepExponent (steps * 2 ^ exponent) = exponent :=
    stepExponent_mul_zpow (by linarith) (by linarith) canonical.lowest enough
  rw [nearest_mul_zpow around near, magnitudeValue, Int.cast_natCast]

/-- Below a power of two the steps are half as large, and the power is one more of them than
a mantissa can hold. -/
theorem nearest_of_below_boundary (boundary : IsBoundary mantissa exponent)
    (lower : (mantissa - 1 / 4) * 2 ^ exponent ≤ number)
    (below : number < mantissa * 2 ^ exponent) :
    nearest number = magnitudeValue mantissa exponent := by
  obtain ⟨rfl, beyond⟩ := boundary
  obtain ⟨finer, rfl⟩ : ∃ finer, exponent = finer + 1 := ⟨exponent - 1, by omega⟩
  have scale : (0 : ℚ) < 2 ^ finer := zpow_pos two_pos _
  have double : (2 : ℚ) ^ (finer + 1) = 2 * 2 ^ finer := by
    rw [zpow_add_one₀ two_ne_zero, mul_comm]
  obtain ⟨steps, rfl⟩ : ∃ steps, number = steps * 2 ^ finer :=
    ⟨number / 2 ^ finer, (div_mul_cancel₀ _ scale.ne').symm⟩
  rw [double, ← mul_assoc] at lower below
  rw [mul_le_mul_iff_of_pos_right scale] at lower
  rw [mul_lt_mul_iff_of_pos_right scale] at below
  push_cast at lower below
  have around : stepExponent (steps * 2 ^ finer) = finer :=
    stepExponent_mul_zpow (by linarith) (by linarith) (by omega) (.inl (by linarith))
  have near : IsNearestEven steps (2 ^ 53 : Nat) := by
    refine IsNearestEven.iff_between.mpr (.inr ⟨by decide, ?_, ?_⟩) <;>
      push_cast <;> linarith
  rw [nearest_mul_zpow around near, magnitudeValue, double]
  push_cast
  ring

/-- The numbers in the interval of a float are taken for it. -/
theorem nearest_of_contains (canonical : IsCanonical mantissa exponent)
    (contains : (interval mantissa exponent).Contains number) :
    nearest number = magnitudeValue mantissa exponent := by
  by_cases boundary : IsBoundary mantissa exponent
  · rcases (contains_iff_of_boundary boundary).mp contains with
      ⟨lower, upper⟩
    by_cases above : mantissa * 2 ^ exponent ≤ number
    · have scale : (0 : ℚ) < 2 ^ exponent := zpow_pos two_pos _
      rw [← le_div_iff₀ scale] at above
      rw [← div_le_iff₀ scale] at upper
      have near : IsNearestEven (number / 2 ^ exponent) mantissa := by
        have even : Even (mantissa : ℤ) := Int.even_coe_nat _ |>.mpr boundary.even
        refine IsNearestEven.iff_between.mpr (.inr ⟨even, ?_, ?_⟩) <;> push_cast <;> linarith
      exact nearest_of_isNearestEven canonical near fun _ => (le_div_iff₀ scale).mp above
    · exact nearest_of_below_boundary boundary lower (not_le.mp above)
  · exact nearest_of_isNearestEven canonical
      ((contains_iff_isNearestEven canonical.positive boundary).mp contains)
      fun here => absurd here boundary

/-- A whole number of steps is a float in its own form, or else it is the next power of two
behind the largest mantissa. -/
theorem steps_of_eq_magnitudeValue {whole fine : ℤ} (canonical : IsCanonical mantissa exponent)
    (equal : whole * 2 ^ fine = magnitudeValue mantissa exponent) (most : whole ≤ 2 ^ 53)
    (lowest : -1074 ≤ fine) (least : 2 ^ 52 ≤ whole ∨ fine = -1074) :
    whole = mantissa ∧ fine = exponent ∨
      IsBoundary mantissa exponent ∧ whole = 2 ^ 53 ∧ exponent = fine + 1 := by
  have small := canonical.small
  rw [magnitudeValue] at equal
  rcases le_or_gt exponent fine with coarser | finer
  · obtain ⟨shift, rfl⟩ := Int.le.dest coarser
    have scale : (2 : ℚ) ^ exponent ≠ 0 := zpow_ne_zero _ two_ne_zero
    have shifted : whole * 2 ^ shift = mantissa := by
      rw [zpow_add₀ two_ne_zero, zpow_natCast, mul_comm ((2 : ℚ) ^ exponent), ← mul_assoc] at equal
      exact_mod_cast mul_right_cancel₀ scale equal
    cases shift with
    | zero => exact .inl ⟨by simpa using shifted, by simp⟩
    | succ shift =>
        exfalso
        have large : 2 ^ 52 ≤ whole := least.resolve_right (by have := canonical.lowest; omega)
        have power : (1 : ℤ) ≤ 2 ^ shift := one_le_pow₀ one_le_two
        have : 2 * whole ≤ mantissa := by
          rw [← shifted, pow_succ]
          nlinarith
        omega
  · obtain ⟨shift, rfl⟩ := Int.le.dest (Int.add_one_le_of_lt finer)
    have scale : (2 : ℚ) ^ fine ≠ 0 := zpow_ne_zero _ two_ne_zero
    have shifted : whole = mantissa * 2 * 2 ^ shift := by
      rw [zpow_add₀ two_ne_zero, zpow_add_one₀ two_ne_zero, zpow_natCast] at equal
      have : (whole : ℚ) = mantissa * 2 * 2 ^ shift :=
        mul_right_cancel₀ scale (by rw [equal]; ring)
      exact_mod_cast this
    have large : 2 ^ 52 ≤ mantissa := canonical.normal.resolve_right (by omega)
    right
    cases shift with
    | zero =>
        have double : whole = mantissa * 2 := by simpa using shifted
        exact ⟨⟨by omega, by push_cast; omega⟩, by omega, by simp⟩
    | succ shift =>
        exfalso
        have power : (1 : ℤ) ≤ 2 ^ shift := one_le_pow₀ one_le_two
        have : (mantissa : ℤ) * 4 ≤ whole := by
          rw [shifted, pow_succ]
          nlinarith
        omega

/-- The numbers that are nearest to a mantissa are in the interval, where the steps are not
smaller. -/
theorem contains_of_isNearestEven (canonical : IsCanonical mantissa exponent)
    (near : IsNearestEven (number / 2 ^ exponent) mantissa)
    (above : IsBoundary mantissa exponent → mantissa * 2 ^ exponent ≤ number) :
    (interval mantissa exponent).Contains number := by
  by_cases boundary : IsBoundary mantissa exponent
  · have scale : (0 : ℚ) < 2 ^ exponent := zpow_pos two_pos _
    have upper : number / 2 ^ exponent ≤ mantissa + 1 / 2 := by
      have := (abs_le.mp near.distance_le).2
      push_cast at this
      linarith
    rw [div_le_iff₀ scale] at upper
    refine (contains_iff_of_boundary boundary).mpr ⟨?_, upper⟩
    calc ((mantissa : ℚ) - 1 / 4) * 2 ^ exponent
        ≤ mantissa * 2 ^ exponent := mul_le_mul_of_nonneg_right (by linarith) scale.le
      _ ≤ number := above boundary
  · exact (contains_iff_isNearestEven canonical.positive boundary).mpr near

/-- The numbers less than half a step below a power of two are in its interval. -/
theorem contains_of_below_boundary {fine : ℤ} (boundary : IsBoundary mantissa (fine + 1))
    (lower : 2 ^ 53 - 1 / 2 ≤ number / 2 ^ fine) (upper : number / 2 ^ fine < 2 ^ 53) :
    (interval mantissa (fine + 1)).Contains number := by
  have scale : (0 : ℚ) < 2 ^ fine := zpow_pos two_pos _
  rw [le_div_iff₀ scale] at lower
  rw [div_lt_iff₀ scale] at upper
  rw [contains_iff_of_boundary boundary, boundary.1, zpow_add_one₀ two_ne_zero]
  push_cast
  constructor <;> linarith

/-- The numbers that are taken for a float are in its interval. -/
theorem contains_of_nearest (canonical : IsCanonical mantissa exponent) (nonneg : 0 ≤ number)
    (taken : nearest number = magnitudeValue mantissa exponent) :
    (interval mantissa exponent).Contains number := by
  have positive : 0 < number := by
    refine lt_of_le_of_ne nonneg ?_
    rintro rfl
    rw [nearest_zero] at taken
    exact canonical.value_pos.ne taken
  have scale := step_pos number
  have near := isNearestEven_nearestEven (number / step number)
  have small := abs_div_step_lt number
  have large := le_abs_div_step positive.ne'
  rw [abs_of_pos positive] at small large
  rcases steps_of_eq_magnitudeValue canonical taken (nearestEven_steps_le number)
      (le_max_right _ _) (le_nearestEven_steps positive) with
    ⟨whole, same⟩ | ⟨boundary, whole, finer⟩
  · rw [whole] at near
    rw [step, same] at near large scale
    refine contains_of_isNearestEven canonical near fun boundary => ?_
    rw [← le_div_iff₀ scale, boundary.1]
    push_cast
    exact large boundary.2.ne'
  · have distance := (abs_le.mp near.distance_le).1
    rw [whole] at distance
    push_cast at distance
    subst finer
    exact contains_of_below_boundary boundary (by rw [← step]; linarith) small

/-- The interval of a float consists of the numbers to which the float is nearest. -/
theorem contains_iff_nearest (canonical : IsCanonical mantissa exponent) (nonneg : 0 ≤ number) :
    (interval mantissa exponent).Contains number ↔
      nearest number = magnitudeValue mantissa exponent :=
  ⟨nearest_of_contains canonical, contains_of_nearest canonical nonneg⟩

end Shortest

end IcuMessage
