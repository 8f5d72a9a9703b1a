import IcuMessage.Decimal.Basic
import Mathlib.Algebra.Order.Round
import Mathlib.Data.Rat.Floor
import Mathlib.Tactic.FieldSimp
import Mathlib.Tactic.Linarith
import Mathlib.Tactic.Positivity
import Mathlib.Tactic.Ring

/-!
# Rounding of decimal numbers

`Decimal.value` is the rational number of a decimal number.  Rounding goes to the nearest
number of the places that it is given, and to the greater of two that are equally near
(`Decimal.value_round`).  Extending and shortening leave the value as it is; what is left after
shortening has no zero at its end that it could do without
(`Decimal.coefficient_shorten`).
-/

namespace IcuMessage

/-- A number rounded to a number of places, with halves upwards.  For a magnitude this is
away from zero. -/
def roundedAt (places : Nat) (number : ℚ) : ℚ :=
  round (number * 10 ^ places) / 10 ^ places

theorem roundedAt_eq_floor (places : Nat) (number : ℚ) :
    roundedAt places number = (⌊number * 10 ^ places + 1 / 2⌋ : ℤ) / 10 ^ places := by
  rw [roundedAt, round_eq]

/-- A number with at most the given places is rounded to itself. -/
theorem roundedAt_eq_self {places : Nat} {number : ℚ} {units : ℤ}
    (whole : number * 10 ^ places = units) : roundedAt places number = number := by
  have positive : (0 : ℚ) < 10 ^ places := by positivity
  rw [roundedAt, whole, round_intCast, ← whole, mul_div_cancel_right₀ _ positive.ne']

namespace Decimal

/-- The rational number that a decimal number denotes. -/
def value (decimal : Decimal) : ℚ :=
  decimal.coefficient / 10 ^ decimal.places

variable (decimal : Decimal) (places : Nat)

/-- The value in units of a place that the number reaches. -/
theorem value_mul_pow {places : Nat} (enough : decimal.places ≤ places) :
    decimal.value * 10 ^ places =
      (decimal.coefficient * 10 ^ (places - decimal.places) : Nat) := by
  obtain ⟨more, rfl⟩ := Nat.le.dest enough
  rw [value, Nat.add_sub_cancel_left]
  push_cast
  field_simp
  ring

@[simp]
theorem value_hundredfold : decimal.hundredfold.value = 100 * decimal.value := by
  obtain ⟨coefficient, places⟩ := decimal
  rw [hundredfold, value, value, Nat.pow_eq]
  match places with
  | 0 | 1 =>
      norm_num
      ring
  | places + 2 =>
      have further : places + 2 - 2 = places := by omega
      have none : 2 - (places + 2) = 0 := by omega
      simp only [further, none, pow_zero, mul_one, pow_add]
      field_simp
      norm_num

/-! ## Rounding -/

theorem places_round_le : (decimal.round places).places ≤ places := by
  rw [round]
  split
  · assumption
  · exact le_rfl

@[simp]
theorem value_round : (decimal.round places).value = roundedAt places decimal.value := by
  rw [round]
  split
  case isTrue enough =>
    have units := decimal.value_mul_pow enough
    rw [← Int.cast_natCast] at units
    exact (roundedAt_eq_self units).symm
  case isFalse more =>
    obtain ⟨dropped, reached⟩ := Nat.le.dest (not_le.mp more).le
    have unit : decimal.places - places = dropped := by omega
    have half : decimal.value * 10 ^ places + 1 / 2 =
        ((2 * decimal.coefficient + 10 ^ dropped : Nat) : ℚ) / (2 * 10 ^ dropped : Nat) := by
      rw [value, ← reached, pow_add]
      push_cast
      field_simp
    rw [roundedAt_eq_floor, half, Rat.floor_natCast_div_natCast, value, unit]
    rfl

/-! ## Zeros at the end -/

/-- Shortening removes zeros: the value stays, and if not all spare places are used up, the
last digit is not zero. -/
theorem shortenBy_spec {spare : Nat} (within : spare ≤ decimal.places) :
    (decimal.shortenBy spare).value = decimal.value ∧
      decimal.places - spare ≤ (decimal.shortenBy spare).places ∧
      (decimal.shortenBy spare).places ≤ decimal.places ∧
      (decimal.places - spare < (decimal.shortenBy spare).places →
        (decimal.shortenBy spare).coefficient % 10 ≠ 0) := by
  fun_induction shortenBy spare decimal with
  | case1 decimal =>
      exact ⟨rfl, le_rfl, le_rfl, fun beyond => absurd beyond (lt_irrefl _)⟩
  | case2 decimal spare zero ih =>
      obtain ⟨fewer, place⟩ : ∃ fewer, decimal.places = fewer + 1 :=
        ⟨decimal.places - 1, by omega⟩
      have tenfold : decimal.coefficient = decimal.coefficient / 10 * 10 := by omega
      have value : value ⟨decimal.coefficient / 10, decimal.places - 1⟩ = decimal.value := by
        rw [Decimal.value, Decimal.value]
        conv_rhs => rw [tenfold]
        simp only [place, Nat.add_sub_cancel, pow_succ]
        push_cast
        field_simp
      rcases ih (by simp only; omega) with
        ⟨kept, least, most, last⟩
      simp only at least most last
      refine ⟨kept.trans value, by omega, by omega, fun beyond => last (by omega)⟩
  | case3 decimal spare nonzero =>
      exact ⟨rfl, by omega, le_rfl, fun _ => nonzero⟩

@[simp]
theorem value_shorten : (decimal.shorten places).value = decimal.value :=
  (decimal.shortenBy_spec (Nat.sub_le _ _)).1

theorem places_shorten_le : (decimal.shorten places).places ≤ decimal.places :=
  (decimal.shortenBy_spec (Nat.sub_le _ _)).2.2.1

/-- A place beyond those that were asked for does not hold a zero. -/
theorem coefficient_shorten (beyond : places < (decimal.shorten places).places) :
    (decimal.shorten places).coefficient % 10 ≠ 0 := by
  have within := decimal.places_shorten_le places
  exact (decimal.shortenBy_spec (Nat.sub_le _ _)).2.2.2 (by rw [shorten] at beyond; omega)

@[simp]
theorem value_extend : (decimal.extend places).value = decimal.value := by
  rw [extend]
  split
  case isTrue fewer =>
    obtain ⟨more, rfl⟩ := Nat.le.dest fewer.le
    rw [value, value, Nat.add_sub_cancel_left, Nat.pow_eq, pow_add]
    push_cast
    field_simp
  case isFalse => rfl

theorem places_extend : (decimal.extend places).places = max decimal.places places := by
  rw [extend]
  split
  case isTrue fewer => exact (max_eq_right fewer.le).symm
  case isFalse enough => exact (max_eq_left (not_lt.mp enough)).symm

/-- Extending adds zeros only up to the places that were asked for. -/
theorem extend_of_le {decimal : Decimal} {places : Nat} (enough : places ≤ decimal.places) :
    decimal.extend places = decimal := by
  rw [extend, if_neg (by omega)]

end Decimal

end IcuMessage
