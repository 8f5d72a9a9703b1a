import IcuMessage.Proofs.Decimal.Rounding
import IcuMessage.Proofs.Text.Integers
import Mathlib.Algebra.Order.Floor.Semifield
import Mathlib.Data.Nat.Digits.Lemmas

/-!
# The digits of decimal numbers

A decimal number is written with the digits of its whole part, which have zeros before them
where more digits are asked for, and one digit for each of its places.  All digits together
are those of the coefficient (`Decimal.ofDigitChars_digits`).
-/

namespace IcuMessage

namespace Text

/-- A number has the digits that it has without leading zeros, and zero has one. -/
theorem length_writeNat (value : Nat) :
    (writeNat value).length = max 1 (Nat.digits 10 value).length := by
  have bounds {digits : Nat} (some : 0 < digits) :
      (writeNat value).length ≤ digits ↔ max 1 (Nat.digits 10 value).length ≤ digits := by
    rw [writeNat, Nat.length_toDigits_le_iff (by norm_num) some, max_le_iff,
      Nat.digits_length_le_iff (by norm_num)]
    exact ⟨fun small => ⟨some, small⟩, fun small => small.2⟩
  apply le_antisymm
  · exact (bounds (by omega)).mpr le_rfl
  · exact (bounds Nat.length_toDigits_pos).mp le_rfl

theorem ofDigitChars_writeNat (value : Nat) : Nat.ofDigitChars 10 (writeNat value) 0 = value :=
  Nat.ofDigitChars_ten_toDigits

/-- The last digit of a number. -/
theorem getLast?_writeNat (value : Nat) :
    (writeNat value).getLast? = some (value % 10).digitChar := by
  rw [writeNat, Nat.toDigits_eq_if (by norm_num)]
  split
  case isTrue small => rw [Nat.mod_eq_of_lt small, List.getLast?_singleton]
  case isFalse => rw [List.getLast?_concat]

end Text

namespace Decimal

/-! ## Zeros in front -/

section Padding

variable (width : Nat) {digits : List Char}

theorem length_padStart : (padStart width digits).length = max width digits.length := by
  rw [padStart, List.length_append, List.length_replicate]
  omega

theorem ofDigitChars_padStart :
    Nat.ofDigitChars 10 (padStart width digits) 0 = Nat.ofDigitChars 10 digits 0 := by
  rw [padStart, Nat.ofDigitChars_append, Nat.ofDigitChars_replicate_zero, mul_zero]

theorem isDigit_of_mem_padStart (given : ∀ digit ∈ digits, digit.isDigit) :
    ∀ digit ∈ padStart width digits, digit.isDigit := by
  intro digit member
  rcases List.mem_append.mp member with zero | own
  · rw [List.eq_of_mem_replicate zero]
    rfl
  · exact given digit own

end Padding

/-! ## Whole part and fraction -/

variable (decimal : Decimal)

theorem isDigit_of_mem_wholeDigits : ∀ digit ∈ decimal.wholeDigits, digit.isDigit :=
  fun _ member => Text.isDigit_of_mem_writeNat member

theorem isDigit_of_mem_fractionDigits : ∀ digit ∈ decimal.fractionDigits, digit.isDigit := by
  rw [fractionDigits]
  split
  · simp
  · exact isDigit_of_mem_padStart _ fun _ member => Text.isDigit_of_mem_writeNat member

theorem fraction_lt : decimal.fraction < 10 ^ decimal.places :=
  Nat.mod_lt _ (Nat.pow_pos (by norm_num))

/-- There is one digit for each place. -/
theorem length_fractionDigits : decimal.fractionDigits.length = decimal.places := by
  rw [fractionDigits]
  split
  case isTrue none => rw [none, List.length_nil]
  case isFalse some =>
    have short : (Text.writeNat decimal.fraction).length ≤ decimal.places :=
      (Nat.length_toDigits_le_iff (by norm_num) (Nat.pos_of_ne_zero some)).mpr decimal.fraction_lt
    rw [length_padStart, max_eq_left short]

theorem ofDigitChars_fractionDigits :
    Nat.ofDigitChars 10 decimal.fractionDigits 0 = decimal.fraction := by
  rw [fractionDigits]
  split
  case isTrue none => simp [fraction, none, Nat.mod_one]
  case isFalse => rw [ofDigitChars_padStart, Text.ofDigitChars_writeNat]

/-- All digits of a number together are those of its coefficient. -/
theorem ofDigitChars_digits (width : Nat) :
    Nat.ofDigitChars 10 (padStart width decimal.wholeDigits ++ decimal.fractionDigits) 0 =
      decimal.coefficient := by
  rw [Nat.ofDigitChars_append, ofDigitChars_padStart, wholeDigits, Text.ofDigitChars_writeNat,
    Nat.ofDigitChars_eq_ofDigitChars_zero, length_fractionDigits, ofDigitChars_fractionDigits]
  exact Nat.div_add_mod _ _

/-- A number whose last digit is not zero is written so. -/
theorem getLast?_fractionDigits (nonzero : decimal.coefficient % 10 ≠ 0) :
    decimal.fractionDigits.getLast? ≠ some '0' := by
  rw [fractionDigits]
  split
  case isTrue => simp
  case isFalse some =>
    have same : decimal.fraction % 10 = decimal.coefficient % 10 :=
      Nat.mod_mod_of_dvd _ (dvd_pow_self 10 some)
    have notZero : ∀ digit < 10, digit ≠ 0 → digit.digitChar ≠ '0' := by decide
    rw [padStart, List.getLast?_append_of_ne_nil _ (Text.writeNat_ne_nil _),
      Text.getLast?_writeNat, same]
    intro equal
    exact notZero _ (Nat.mod_lt _ (by norm_num)) nonzero (Option.some.inj equal)

theorem whole_eq_floor : decimal.whole = ⌊decimal.value⌋₊ := by
  have divided : ⌊(decimal.coefficient : ℚ) / (10 ^ decimal.places : Nat)⌋₊ =
      decimal.coefficient / 10 ^ decimal.places := Nat.floor_div_eq_div _ _
  rw [value, whole, Nat.pow_eq, ← divided]
  push_cast
  rfl

end Decimal

end IcuMessage
