import IcuMessage.Decimal.Binary64
import Mathlib.Data.Rat.Cast.Order
import Mathlib.Tactic.Linarith
import Mathlib.Tactic.Positivity
import Mathlib.Tactic.Ring

/-!
# Exact values of binary floating-point numbers

A finite number of 64 bits denotes a rational number.  `Binary64.integer?`
works on natural numbers; here it is shown to find the integer that this
rational number is (`integer?_eq_some_iff`).
-/

namespace IcuMessage.Binary64

/-- The magnitude `mantissa * 2 ^ exponent`. -/
def magnitudeValue (mantissa : Nat) (exponent : Int) : ℚ :=
  mantissa * 2 ^ exponent

/-- The rational number that a finite number denotes. -/
def value? : Binary64 → Option ℚ
  | .finite false mantissa exponent => some (magnitudeValue mantissa exponent)
  | .finite true mantissa exponent => some (-magnitudeValue mantissa exponent)
  | _ => none

theorem magnitudeValue_eq_div (mantissa : Nat) (exponent : Int) :
    magnitudeValue mantissa exponent =
      ((mantissa * 2 ^ exponent.toNat : Nat) : ℚ) / ((2 ^ (-exponent).toNat : Nat) : ℚ) := by
  have split : exponent = (exponent.toNat : Int) - ((-exponent).toNat : Int) := by omega
  calc magnitudeValue mantissa exponent
      = mantissa * 2 ^ ((exponent.toNat : Int) - ((-exponent).toNat : Int)) := by
        rw [magnitudeValue, ← split]
    _ = _ := by
        rw [zpow_sub₀ two_ne_zero, zpow_natCast, zpow_natCast]
        push_cast
        ring

theorem magnitudeValue_nonneg (mantissa : Nat) (exponent : Int) :
    0 ≤ magnitudeValue mantissa exponent := by
  rw [magnitudeValue_eq_div]
  exact div_nonneg (Nat.cast_nonneg _) (Nat.cast_nonneg _)

/-- A magnitude is a natural number exactly if the division leaves no rest. -/
theorem magnitudeValue_eq_natCast_iff (mantissa : Nat) (exponent : Int) (whole : Nat) :
    magnitudeValue mantissa exponent = whole ↔
      mantissa * 2 ^ exponent.toNat % 2 ^ (-exponent).toNat = 0 ∧
        wholeMagnitude mantissa exponent = whole := by
  have positive : 0 < 2 ^ (-exponent).toNat := Nat.two_pow_pos _
  have nonzero : ((2 ^ (-exponent).toNat : Nat) : ℚ) ≠ 0 := by positivity
  rw [magnitudeValue_eq_div, div_eq_iff nonzero, wholeMagnitude, Nat.pow_eq, Nat.pow_eq]
  constructor
  · intro equal
    have exact : mantissa * 2 ^ exponent.toNat = whole * 2 ^ (-exponent).toNat := by
      exact_mod_cast equal
    rw [exact]
    exact ⟨Nat.mul_mod_left _ _, Nat.mul_div_cancel _ positive⟩
  · rintro ⟨noRest, rfl⟩
    have exact := Nat.div_mul_cancel (Nat.dvd_of_mod_eq_zero noRest)
    exact_mod_cast exact.symm

/-- The integer of a number is the integer that it denotes exactly. -/
theorem integer?_eq_some_iff (number : Binary64) (whole : Int) :
    number.integer? = some whole ↔ number.value? = some (whole : ℚ) := by
  match number with
  | .notANumber => simp [integer?, value?]
  | .infinite _ => simp [integer?, value?]
  | .finite negative mantissa exponent =>
      have magnitude := magnitudeValue_eq_natCast_iff mantissa exponent
      have nonneg := magnitudeValue_nonneg mantissa exponent
      constructor
      · intro found
        simp only [integer?, Nat.pow_eq] at found
        split at found
        case isFalse => cases found
        case isTrue noRest =>
          have exact := (magnitude _).mpr ⟨noRest, rfl⟩
          cases negative <;>
            simp only [truncated?, Option.some.injEq] at found <;>
            subst found <;> simp [value?, exact]
      · intro denotes
        -- the magnitude is the absolute value of the integer
        have absolute : magnitudeValue mantissa exponent = (whole.natAbs : ℚ) := by
          rw [Nat.cast_natAbs, Int.cast_abs]
          cases negative <;> simp only [value?, Option.some.injEq] at denotes
          · rw [← denotes, abs_of_nonneg nonneg]
          · rw [← denotes, abs_neg, abs_of_nonneg nonneg]
        rcases (magnitude _).mp absolute with
          ⟨noRest, divided⟩
        cases negative <;>
          simp only [value?, Option.some.injEq] at denotes <;>
          simp only [integer?, Nat.pow_eq, noRest, if_true, truncated?, divided,
            Option.some.injEq]
        · have : (0 : ℚ) ≤ whole := denotes ▸ nonneg
          have : 0 ≤ whole := by exact_mod_cast this
          omega
        · have : (whole : ℚ) ≤ 0 := by linarith
          have : whole ≤ 0 := by exact_mod_cast this
          omega

end IcuMessage.Binary64
