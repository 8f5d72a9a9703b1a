import IcuMessage.Proofs.Decimal.ExactValue
import Mathlib.Algebra.Order.Round
import Mathlib.Data.Int.Log
import Mathlib.Data.Rat.Floor

/-!
# The nearest binary floating-point number

Around a rational number the numbers of 64 bits lie in steps of one power of two, which
`Binary64.step` is: a mantissa has 53 binary digits, and no step is below `2 ^ (-1074)`.
`Binary64.nearest` goes to the nearest number of this grid, and to an even number of steps
if two are equally near.

The numbers of 64 bits are on the grid and are their own nearest (`nearest_eq_self`), and so
are the integers up to `2 ^ 53` (`nearest_intCast`).
-/

namespace IcuMessage

/-! ## The nearest integer -/

/-- An integer is nearest to a rational number if it is less than one half away, or one
half away and even. -/
def IsNearestEven (number : ℚ) (whole : ℤ) : Prop :=
  |number - whole| < 1 / 2 ∨ |number - whole| = 1 / 2 ∧ Even whole

namespace IsNearestEven

variable {number : ℚ} {whole : ℤ}

theorem distance_le (near : IsNearestEven number whole) : |number - whole| ≤ 1 / 2 := by
  rcases near with closer | ⟨half, _⟩
  · exact closer.le
  · exact half.le

/-- The nearest integer by the two ends of the numbers around it. -/
theorem iff_between :
    IsNearestEven number whole ↔
      whole - 1 / 2 < number ∧ number < whole + 1 / 2 ∨
        Even whole ∧ whole - 1 / 2 ≤ number ∧ number ≤ whole + 1 / 2 := by
  rw [IsNearestEven]
  constructor
  · rintro (closer | ⟨half, even⟩)
    · left
      rw [abs_lt] at closer
      constructor <;> linarith
    · right
      have within := abs_le.mp half.le
      exact ⟨even, by linarith, by linarith⟩
  · rintro (⟨lower, upper⟩ | ⟨even, lower, upper⟩)
    · left
      rw [abs_lt]
      constructor <;> linarith
    · have within : |number - whole| ≤ 1 / 2 := abs_le.mpr ⟨by linarith, by linarith⟩
      rcases within.lt_or_eq with closer | half
      · exact .inl closer
      · exact .inr ⟨half, even⟩

theorem intCast (whole : ℤ) : IsNearestEven whole whole := by
  left
  simp

theorem neg (near : IsNearestEven number whole) : IsNearestEven (-number) (-whole) := by
  have distance : |-number - ((-whole : ℤ) : ℚ)| = |number - whole| := by
    rw [← abs_neg]
    congr 1
    push_cast
    ring
  rw [IsNearestEven, distance, even_neg]
  exact near

/-- Two integers that are nearest are one: they are at most one apart, and if they are one
apart, both are even. -/
theorem unique {other : ℤ} (near : IsNearestEven number whole)
    (also : IsNearestEven number other) : whole = other := by
  by_contra different
  have apart : (1 : ℚ) ≤ |(whole : ℚ) - other| := by
    have : 1 ≤ |whole - other| := Int.one_le_abs (sub_ne_zero.mpr different)
    exact_mod_cast this
  have between : |(whole : ℚ) - other| ≤ |number - whole| + |number - other| := by
    rw [abs_sub_comm number whole]
    exact abs_sub_le _ _ _
  have first := near.distance_le
  have second := also.distance_le
  have even : Even whole := by
    rcases near with closer | ⟨_, even⟩
    · linarith
    · exact even
  have otherEven : Even other := by
    rcases also with closer | ⟨_, even⟩
    · linarith
    · exact even
  have exactly : |whole - other| = 1 := by
    have : |(whole : ℚ) - other| = 1 := by linarith
    exact_mod_cast this
  have odd : ¬ Even (whole - other) := by
    rcases abs_eq (zero_le_one' ℤ) |>.mp exactly with one | minusOne
    · rw [one]
      decide
    · rw [minusOne]
      decide
  exact odd (even.sub otherEven)

end IsNearestEven

/-- The integer nearest to a rational number, and of two the even one. -/
def nearestEven (number : ℚ) : ℤ :=
  if number - ⌊number⌋ < 1 / 2 then ⌊number⌋
  else if 1 / 2 < number - ⌊number⌋ then ⌊number⌋ + 1
  else ⌊number⌋ + ⌊number⌋ % 2

theorem isNearestEven_nearestEven (number : ℚ) : IsNearestEven number (nearestEven number) := by
  have lower := Int.floor_le number
  have upper := Int.lt_floor_add_one number
  rw [nearestEven]
  split_ifs with below above
  · left
    rw [abs_lt]
    constructor <;> linarith
  · left
    push_cast
    rw [abs_lt]
    constructor <;> linarith
  · right
    have half : number - ⌊number⌋ = 1 / 2 := by linarith
    rcases Int.emod_two_eq_zero_or_one ⌊number⌋ with even | odd
    · rw [even, add_zero, half]
      exact ⟨by norm_num, Int.even_iff.mpr even⟩
    · rw [odd]
      refine ⟨?_, Int.even_add_one.mpr (Int.not_even_iff.mpr odd)⟩
      have beyond : number - ((⌊number⌋ + 1 : ℤ) : ℚ) = -(1 / 2) := by
        push_cast
        linarith
      rw [beyond, abs_neg]
      norm_num

theorem nearestEven_eq_iff {number : ℚ} {whole : ℤ} :
    nearestEven number = whole ↔ IsNearestEven number whole := by
  constructor
  · rintro rfl
    exact isNearestEven_nearestEven number
  · intro near
    exact (isNearestEven_nearestEven number).unique near

@[simp]
theorem nearestEven_intCast (whole : ℤ) : nearestEven whole = whole :=
  nearestEven_eq_iff.mpr (.intCast whole)

theorem nearestEven_neg (number : ℚ) : nearestEven (-number) = -nearestEven number :=
  nearestEven_eq_iff.mpr (isNearestEven_nearestEven number).neg

/-- A bound that is an integer stays a bound. -/
theorem nearestEven_le {number : ℚ} {bound : ℤ} (below : number ≤ bound) :
    nearestEven number ≤ bound := by
  have distance := (abs_le.mp (isNearestEven_nearestEven number).distance_le).1
  by_contra beyond
  have : (bound : ℚ) + 1 ≤ nearestEven number := by exact_mod_cast not_le.mp beyond
  linarith

theorem le_nearestEven {number : ℚ} {bound : ℤ} (above : bound ≤ number) :
    bound ≤ nearestEven number := by
  have opposite : nearestEven (-number) ≤ -bound := by
    apply nearestEven_le
    push_cast
    linarith
  rw [nearestEven_neg] at opposite
  omega

namespace Binary64

/-! ## The grid around a number -/

/-- The exponent of the power of two that is the step around a number. -/
def stepExponent (number : ℚ) : ℤ :=
  max (Int.log 2 |number| - 52) (-1074)

/-- The step from one number of 64 bits to the next around a number. -/
def step (number : ℚ) : ℚ :=
  2 ^ stepExponent number

/-- The number of 64 bits that is nearest to a rational number, if the range of exponents
goes so far, and of two the one with an even mantissa. -/
def nearest (number : ℚ) : ℚ :=
  nearestEven (number / step number) * step number

theorem step_pos (number : ℚ) : 0 < step number :=
  zpow_pos two_pos _

@[simp]
theorem stepExponent_neg (number : ℚ) : stepExponent (-number) = stepExponent number := by
  rw [stepExponent, abs_neg, stepExponent]

@[simp]
theorem step_neg (number : ℚ) : step (-number) = step number := by
  rw [step, stepExponent_neg, step]

theorem nearest_neg (number : ℚ) : nearest (-number) = -nearest number := by
  rw [nearest, step_neg, neg_div, nearestEven_neg, nearest]
  push_cast
  ring

/-- A number is nearest to itself if it is a whole number of its steps. -/
theorem nearest_eq_self_of_steps {number : ℚ} (steps : ℤ)
    (whole : number = steps * step number) : nearest number = number := by
  have quotient : number / step number = steps :=
    (div_eq_iff (step_pos number).ne').mpr whole
  rw [nearest, quotient, nearestEven_intCast, ← whole]

@[simp]
theorem nearest_zero : nearest 0 = 0 :=
  nearest_eq_self_of_steps 0 (by simp)

/-- A number is less than `2 ^ 53` of its steps away from zero. -/
theorem abs_div_step_lt (number : ℚ) : |number| / step number < 2 ^ 53 := by
  have below : |number| < 2 ^ (Int.log 2 |number| + 1) :=
    Int.lt_zpow_succ_log_self Nat.one_lt_two |number|
  have coarse : Int.log 2 |number| + 1 ≤ 53 + stepExponent number := by
    have := le_max_left (Int.log 2 |number| - 52) (-1074)
    rw [stepExponent]
    omega
  rw [div_lt_iff₀ (step_pos number)]
  calc |number| < 2 ^ (Int.log 2 |number| + 1) := below
    _ ≤ 2 ^ (53 + stepExponent number) := zpow_le_zpow_right₀ one_le_two coarse
    _ = 2 ^ 53 * step number := by
      rw [step, zpow_add₀ two_ne_zero]
      norm_num

/-- A number is at least `2 ^ 52` of its steps away from zero, unless they are the
smallest. -/
theorem le_abs_div_step {number : ℚ} (nonzero : number ≠ 0)
    (larger : stepExponent number ≠ -1074) : 2 ^ 52 ≤ |number| / step number := by
  have above : (2 : ℚ) ^ Int.log 2 |number| ≤ |number| :=
    Int.zpow_log_le_self Nat.one_lt_two (abs_pos.mpr nonzero)
  have fine : 52 + stepExponent number = Int.log 2 |number| := by
    rw [stepExponent] at larger ⊢
    omega
  rw [le_div_iff₀ (step_pos number)]
  calc 2 ^ 52 * step number = 2 ^ (52 + stepExponent number) := by
        rw [step, zpow_add₀ two_ne_zero]
        norm_num
    _ = 2 ^ Int.log 2 |number| := by rw [fine]
    _ ≤ |number| := above

/-- The steps to which a number is rounded fit in a mantissa, or are one more than fit. -/
theorem nearestEven_steps_le (number : ℚ) : nearestEven (number / step number) ≤ 2 ^ 53 := by
  apply nearestEven_le
  push_cast
  calc number / step number
      ≤ |number| / step number :=
        div_le_div_of_nonneg_right (le_abs_self number) (step_pos number).le
    _ ≤ 2 ^ 53 := (abs_div_step_lt number).le

/-- The steps to which a positive number is rounded fill a mantissa, unless they are the
smallest. -/
theorem le_nearestEven_steps {number : ℚ} (positive : 0 < number) :
    2 ^ 52 ≤ nearestEven (number / step number) ∨ stepExponent number = -1074 := by
  by_cases smallest : stepExponent number = -1074
  · exact .inr smallest
  · left
    have least := le_abs_div_step positive.ne' smallest
    rw [abs_of_pos positive] at least
    apply le_nearestEven
    push_cast
    exact least

theorem stepExponent_le_of_abs_lt {number : ℚ} {bound : ℤ} (nonzero : number ≠ 0)
    (below : |number| < 2 ^ (bound + 53)) (lowest : -1074 ≤ bound) :
    stepExponent number ≤ bound := by
  have log : Int.log 2 |number| < bound + 53 :=
    (Int.lt_zpow_iff_log_lt Nat.one_lt_two (abs_pos.mpr nonzero)).mp below
  rw [stepExponent]
  omega

/-- A number of less than `2 ^ 53` steps lies among steps of this size, if it has `2 ^ 52`
of them or there are no smaller ones. -/
theorem stepExponent_mul_zpow {steps : ℚ} {exponent : ℤ} (positive : 0 < steps)
    (below : steps < 2 ^ 53) (lowest : -1074 ≤ exponent)
    (above : 2 ^ 52 ≤ steps ∨ exponent = -1074) :
    stepExponent (steps * 2 ^ exponent) = exponent := by
  have scale : (0 : ℚ) < 2 ^ exponent := zpow_pos two_pos _
  have nonzero : steps * 2 ^ exponent ≠ 0 := (mul_pos positive scale).ne'
  have absolute : |steps * 2 ^ exponent| = steps * 2 ^ exponent :=
    abs_of_pos (mul_pos positive scale)
  apply le_antisymm
  · apply stepExponent_le_of_abs_lt nonzero _ lowest
    calc |steps * 2 ^ exponent| = steps * 2 ^ exponent := absolute
      _ < 2 ^ 53 * 2 ^ exponent := mul_lt_mul_of_pos_right below scale
      _ = 2 ^ (exponent + 53) := by
        rw [zpow_add₀ two_ne_zero, mul_comm]
        norm_num
  · rcases above with above | rfl
    · have log : exponent + 52 ≤ Int.log 2 |steps * 2 ^ exponent| := by
        apply (Int.zpow_le_iff_le_log Nat.one_lt_two (abs_pos.mpr nonzero)).mp
        calc ((2 : ℕ) : ℚ) ^ (exponent + 52) = 2 ^ 52 * 2 ^ exponent := by
              push_cast
              rw [zpow_add₀ two_ne_zero, mul_comm]
              norm_num
          _ ≤ steps * 2 ^ exponent := mul_le_mul_of_nonneg_right above scale.le
          _ = |steps * 2 ^ exponent| := absolute.symm
      rw [stepExponent]
      omega
    · exact le_max_right _ _

/-- Rounding does not pass a power of two. -/
theorem nearest_le_of_le {number : ℚ} {bound : ℤ} (below : number ≤ 2 ^ bound)
    (fine : stepExponent number ≤ bound) : nearest number ≤ 2 ^ bound := by
  obtain ⟨shift, equal⟩ := Int.le.dest fine
  have whole : (2 : ℚ) ^ bound = 2 ^ shift * step number := by
    rw [step, ← equal, zpow_add₀ two_ne_zero, zpow_natCast, mul_comm]
  have steps : number / step number ≤ ((2 ^ shift : ℤ) : ℚ) := by
    rw [div_le_iff₀ (step_pos number)]
    push_cast
    rwa [← whole]
  rw [whole, nearest]
  apply mul_le_mul_of_nonneg_right _ (step_pos number).le
  exact_mod_cast nearestEven_le steps

theorem abs_nearest_le {number : ℚ} {bound : ℤ} (within : |number| ≤ 2 ^ bound)
    (fine : stepExponent number ≤ bound) : |nearest number| ≤ 2 ^ bound := by
  rw [abs_le] at within ⊢
  constructor
  · have opposite : nearest (-number) ≤ 2 ^ bound :=
      nearest_le_of_le (by linarith) (by rwa [stepExponent_neg])
    rw [nearest_neg] at opposite
    linarith
  · exact nearest_le_of_le within.2 fine

/-! ## Magnitudes on the grid -/

section Magnitudes

variable {mantissa : Nat} {exponent : ℤ}

theorem log_magnitudeValue (positive : 0 < mantissa) :
    Int.log 2 (magnitudeValue mantissa exponent) = mantissa.log2 + exponent := by
  have valuePositive : 0 < magnitudeValue mantissa exponent :=
    mul_pos (by exact_mod_cast positive) (zpow_pos two_pos _)
  have scale : (0 : ℚ) < 2 ^ exponent := zpow_pos two_pos _
  apply le_antisymm
  · rw [← Int.lt_add_one_iff, ← Int.lt_zpow_iff_log_lt Nat.one_lt_two valuePositive]
    have below : (mantissa : ℚ) < 2 ^ (mantissa.log2 + 1) := by
      exact_mod_cast Nat.lt_log2_self
    calc magnitudeValue mantissa exponent
        < 2 ^ (mantissa.log2 + 1) * 2 ^ exponent := mul_lt_mul_of_pos_right below scale
      _ = ((2 : ℕ) : ℚ) ^ (mantissa.log2 + exponent + 1) := by
        rw [← zpow_natCast, ← zpow_add₀ two_ne_zero]
        push_cast
        congr 1
        ring
  · rw [← Int.zpow_le_iff_le_log Nat.one_lt_two valuePositive]
    have above : (2 : ℚ) ^ mantissa.log2 ≤ mantissa := by
      exact_mod_cast Nat.log2_self_le positive.ne'
    calc ((2 : ℕ) : ℚ) ^ (mantissa.log2 + exponent)
        = 2 ^ mantissa.log2 * 2 ^ exponent := by
          rw [← zpow_natCast, ← zpow_add₀ two_ne_zero]
          push_cast
          rfl
      _ ≤ magnitudeValue mantissa exponent := mul_le_mul_of_nonneg_right above scale.le

theorem stepExponent_magnitudeValue (positive : 0 < mantissa) :
    stepExponent (magnitudeValue mantissa exponent) =
      max (mantissa.log2 + exponent - 52) (-1074) := by
  rw [stepExponent, abs_of_nonneg (magnitudeValue_nonneg mantissa exponent),
    log_magnitudeValue positive]

/-- A mantissa of at most 53 binary digits is a whole number of steps. -/
theorem nearest_magnitudeValue (small : mantissa < 2 ^ 53) (lowest : -1074 ≤ exponent) :
    nearest (magnitudeValue mantissa exponent) = magnitudeValue mantissa exponent := by
  rcases Nat.eq_zero_or_pos mantissa with rfl | positive
  · simp [magnitudeValue]
  · have digits : mantissa.log2 ≤ 52 := by
      have := (Nat.log2_lt positive.ne').mpr small
      omega
    have finer : stepExponent (magnitudeValue mantissa exponent) ≤ exponent := by
      rw [stepExponent_magnitudeValue positive]
      omega
    obtain ⟨shift, equal⟩ := Int.le.dest finer
    apply nearest_eq_self_of_steps (mantissa * 2 ^ shift : Nat)
    calc magnitudeValue mantissa exponent
        = mantissa * 2 ^ (stepExponent (magnitudeValue mantissa exponent) + shift) := by
          rw [equal, magnitudeValue]
      _ = _ := by
          rw [step, zpow_add₀ two_ne_zero, zpow_natCast]
          push_cast
          ring

end Magnitudes

/-- The integers up to `2 ^ 53` in either direction are numbers of 64 bits. -/
theorem nearest_intCast {whole : ℤ} (small : whole.natAbs ≤ 2 ^ 53) :
    nearest whole = whole := by
  have natural : nearest (whole.natAbs : ℚ) = whole.natAbs := by
    rcases Nat.lt_or_eq_of_le small with below | equal
    · have exact : nearest (magnitudeValue whole.natAbs 0) = magnitudeValue whole.natAbs 0 :=
        nearest_magnitudeValue below (by omega)
      simpa [magnitudeValue] using exact
    · have exact : nearest (magnitudeValue (2 ^ 52) 1) = magnitudeValue (2 ^ 52) 1 :=
        nearest_magnitudeValue (by omega) (by omega)
      rw [equal]
      norm_num [magnitudeValue] at exact ⊢
      exact exact
  rcases Int.natAbs_eq whole with positive | negative
  · rw [positive]
    exact natural
  · rw [negative]
    rw [Int.cast_neg, Int.cast_natCast, nearest_neg, natural]

end Binary64

end IcuMessage
