import IcuMessage.Proofs.Decimal.DigitText
import IcuMessage.Proofs.Decimal.ShortestDigits
import IcuMessage.Proofs.Style.FractionDigits
import IcuMessage.Provider

/-!
# The digits of rendered numbers

A number is rendered from its shortest decimal number, or from the hundredfold of that for a
percentage.  `RoundedDigits` says which digits are written for a number that is not negative:
those of the number rounded at the greatest number of places, as many as are asked for, and
without a zero that is not.  `NumberOptions.roundedDigits_rounded` shows this of the steps of
rendering together: rounding, removing zeros at the end, and filling up with zeros at both
ends.  In English without groups nothing but these digits stands between the marks of the
style (`formatNumber_english`).
-/

namespace IcuMessage

open Binary64

/-- The digits in which a number is written, with bounds on the digits of the fraction and a
least number of digits before it. -/
structure RoundedDigits (least most wholeLeast : Nat) (number : ℚ) (whole fraction : List Char) :
    Prop where
  isDigit : ∀ digit ∈ whole ++ fraction, digit.isDigit
  least_le : least ≤ fraction.length
  le_most : fraction.length ≤ most
  last : least < fraction.length → fraction.getLast? ≠ some '0'
  wholeLength :
    whole.length = max 1 (max wholeLeast (digitCount ⌊roundedAt most number⌋₊))
  value :
    (Nat.ofDigitChars 10 (whole ++ fraction) 0 : ℚ) / 10 ^ fraction.length =
      roundedAt most number

/-! ## The steps of rounding -/

namespace Decimal

variable (decimal : Decimal) (least most : Nat)

/-- Rounded at the greatest number of places, without zeros beyond the least. -/
def fitted : Decimal :=
  ((decimal.round most).shorten least).extend least

theorem value_fitted : (decimal.fitted least most).value = roundedAt most decimal.value := by
  rw [fitted, value_extend, value_shorten, value_round]

theorem le_places_fitted : least ≤ (decimal.fitted least most).places := by
  rw [fitted, places_extend]
  exact le_max_right _ _

variable {least most}

theorem places_fitted_le (ordered : least ≤ most) : (decimal.fitted least most).places ≤ most := by
  rw [fitted, places_extend]
  exact max_le ((places_shorten_le _ _).trans (places_round_le _ _)) ordered

/-- A place beyond the least does not hold a zero: then nothing was filled up after
shortening. -/
theorem coefficient_fitted (beyond : least < (decimal.fitted least most).places) :
    (decimal.fitted least most).coefficient % 10 ≠ 0 := by
  rw [fitted, places_extend, lt_max_iff] at beyond
  have more : least < ((decimal.round most).shorten least).places :=
    beyond.resolve_right (lt_irrefl _)
  rw [fitted, extend_of_le more.le]
  exact coefficient_shorten _ _ more

theorem roundedDigits_fitted (ordered : least ≤ most) (wholeLeast : Nat) :
    RoundedDigits least most wholeLeast decimal.value
      (padStart wholeLeast (decimal.fitted least most).wholeDigits)
      (decimal.fitted least most).fractionDigits where
  isDigit := by
    intro digit member
    rcases List.mem_append.mp member with whole | fraction
    · exact isDigit_of_mem_padStart _ (isDigit_of_mem_wholeDigits _) digit whole
    · exact isDigit_of_mem_fractionDigits _ digit fraction
  least_le := by
    rw [length_fractionDigits]
    exact le_places_fitted _ _ _
  le_most := by
    rw [length_fractionDigits]
    exact places_fitted_le _ ordered
  last := by
    rw [length_fractionDigits]
    exact fun beyond => getLast?_fractionDigits _ (coefficient_fitted _ beyond)
  wholeLength := by
    rw [length_padStart, wholeDigits, Text.length_writeNat, whole_eq_floor, value_fitted,
      digitCount]
    omega
  value := by
    rw [ofDigitChars_digits, length_fractionDigits, ← value_fitted _ least, value]

end Decimal

/-! ## Options and symbols -/

namespace NumberOptions

variable (options : NumberOptions)

theorem fractionBounds_le :
    options.fractionBounds.1.toNat ≤ options.fractionBounds.2.toNat := by
  rw [fractionBounds, NumberSkeleton.toNat_max]
  exact le_max_right _ _

/-- The number that is written for a magnitude: the hundredfold for a percentage. -/
def scaled (magnitude : ℚ) : ℚ :=
  match options.styleOrDecimal with
  | .percent => 100 * magnitude
  | .decimal | .currency => magnitude

/-- What stands between the sign and the digits: the mark of the currency. -/
def leadingMark : List Char :=
  match options.styleOrDecimal with
  | .currency => currencyMark (options.currency.getD "USD")
  | .decimal | .percent => []

/-- What stands behind the digits. -/
def trailingMark : List Char :=
  match options.styleOrDecimal with
  | .percent => ['%']
  | .decimal | .currency => []

/-- The least number of digits before the fraction. -/
def wholeLeast : Nat :=
  (options.minimumIntegerDigits.map UInt8.toNat).getD 0

variable {options}

/-- The digits of a rendered number are those of the exact number, rounded. -/
theorem roundedDigits_rounded (magnitude : Decimal) :
    RoundedDigits options.fractionBounds.1.toNat options.fractionBounds.2.toNat options.wholeLeast
      (options.scaled magnitude.value) (options.wholeDigits (options.rounded magnitude))
      (options.rounded magnitude).fractionDigits := by
  have ordered := options.fractionBounds_le
  rw [scaled, wholeDigits, rounded]
  cases options.styleOrDecimal with
  | decimal => exact magnitude.roundedDigits_fitted ordered _
  | currency => exact magnitude.roundedDigits_fitted ordered _
  | percent =>
      rw [← Decimal.value_hundredfold]
      exact magnitude.hundredfold.roundedDigits_fitted ordered _

/-- Without a display of its own the sign is written of negative numbers. -/
theorem sign_of_unset (unset : options.signDisplay = none) (negative : Bool) (rounded : Decimal) :
    options.sign negative rounded = if negative then .minus else .none := by
  rw [sign, unset]
  rfl

end NumberOptions

namespace Numerals

/-- An ASCII digit stands for itself. -/
theorem digit_ascii {digit : Char} (isDigit : digit.isDigit) : ascii.digit digit = digit := by
  have zero : '0'.toNat ≤ digit.toNat := (Char.isDigit_iff_toNat.mp isDigit).1
  rw [ascii, Numerals.digit, Nat.add_sub_cancel' zero, Char.ofNat_toNat]

theorem map_digit_ascii {digits : List Char} (areDigits : ∀ digit ∈ digits, digit.isDigit) :
    digits.map ascii.digit = digits := by
  rw [List.map_congr_left fun digit member => digit_ascii (areDigits digit member),
    List.map_id']

end Numerals

/-- The symbols of English are the default ones. -/
theorem ofLocale_english : NumberSymbols.ofLocale LocaleTag.english = {} := by
  decide +kernel

/-- The fraction of a number with the point before it, if it has one. -/
def fractionText (fraction : List Char) : List Char :=
  if fraction.isEmpty then [] else '.' :: fraction

/-- The minus sign of a negative number. -/
def minusSign (negative : Bool) : List Char :=
  if negative then ['-'] else []

/-- Without groups the digits stand as they are. -/
theorem digits_ungrouped {whole fraction : List Char}
    (areDigits : ∀ digit ∈ whole ++ fraction, digit.isDigit) :
    NumberSymbols.digits {} false whole fraction = whole ++ fractionText fraction := by
  have wholeKept := Numerals.map_digit_ascii fun digit member =>
    areDigits digit (List.mem_append_left _ member)
  have fractionKept := Numerals.map_digit_ascii fun digit member =>
    areDigits digit (List.mem_append_right _ member)
  simp only [NumberSymbols.digits, Bool.false_eq_true, if_false, wholeKept, fractionKept,
    fractionText]
  split
  case isTrue => rw [List.append_nil]
  case isFalse => rw [List.append_assoc]; rfl

variable {options : NumberOptions} {negative : Bool}

/-- Without groups and without a display of the sign, a number is its digits between the marks
of its style. -/
theorem renderFinite_plain (ungrouped : options.useGrouping = some false)
    (unset : options.signDisplay = none) (magnitude : Decimal) :
    renderFinite {} options negative magnitude =
      minusSign negative ++ options.leadingMark ++
        options.wholeDigits (options.rounded magnitude) ++
        fractionText (options.rounded magnitude).fractionDigits ++ options.trailingMark := by
  have areDigits := (options.roundedDigits_rounded magnitude).isDigit
  have sign : (options.sign negative (options.rounded magnitude)).localized {} =
      minusSign negative := by
    rw [NumberOptions.sign_of_unset unset]
    cases negative <;> rfl
  have plain : (options.sign negative (options.rounded magnitude)).plain =
      minusSign negative := by
    rw [NumberOptions.sign_of_unset unset]
    cases negative <;> rfl
  have noGroups : (options.useGrouping != some false) = false := by
    rw [ungrouped]
    rfl
  simp only [renderFinite, noGroups, digits_ungrouped areDigits, sign, plain,
    NumberOptions.leadingMark, NumberOptions.trailingMark]
  cases options.styleOrDecimal <;> simp

/-- A number that is finite is rendered in English with the digits of its shortest decimal
number, rounded.  Before them stand a minus sign, if the sign of the number is set, and the mark
of a currency, and behind them the sign of a percentage. -/
theorem formatNumber_english {value : Float} {mantissa : Nat} {exponent : ℤ}
    (finite : ofFloat value = .finite negative mantissa exponent)
    (ungrouped : options.useGrouping = some false) (unset : options.signDisplay = none) :
    ∃ significand power whole fraction,
      IsShortest (magnitudeValue mantissa exponent) significand power ∧
        RoundedDigits options.fractionBounds.1.toNat options.fractionBounds.2.toNat
          options.wholeLeast (options.scaled (significand * 10 ^ power)) whole fraction ∧
        Provider.locales.formatNumber LocaleTag.english value options =
          .ok (String.ofList
            (minusSign negative ++ options.leadingMark ++ whole ++ fractionText fraction ++
              options.trailingMark)) := by
  rcases Shortest.isShortest_decimal finite with
    ⟨significand, power, shortest, value_eq⟩
  refine ⟨significand, power, _, _, shortest,
    value_eq ▸ options.roundedDigits_rounded (Shortest.decimal mantissa exponent), ?_⟩
  simp only [Provider.locales, renderNumber, Numeral.ofFloat, finite, Numeral.ofBinary64,
    ofLocale_english]
  rw [renderFinite_plain ungrouped unset]

/-- Percentages of four digits and at most three more. -/
def paddedPercent : NumberOptions where
  style := some .percent
  minimumIntegerDigits := some 4
  minimumFractionDigits := some 1
  maximumFractionDigits := some 3
  useGrouping := some false

/-- Rounding carries into a new digit of the whole part, and leaves zeros at the end. -/
theorem formatNumber_english_carry :
    ofFloat (-0.0999996) = .finite true 7205730580755178 (-56) ∧
      (∃ significand power whole fraction,
        IsShortest (magnitudeValue 7205730580755178 (-56)) significand power ∧
          RoundedDigits 1 3 4 (100 * (significand * 10 ^ power)) whole fraction ∧
          Provider.locales.formatNumber LocaleTag.english (-0.0999996) paddedPercent =
            .ok (String.ofList (['-'] ++ [] ++ whole ++ fractionText fraction ++ ['%']))) ∧
      Provider.locales.formatNumber LocaleTag.english (-0.0999996) paddedPercent =
        .ok "-0010.0%" := by
  have finite : ofFloat (-0.0999996) = .finite true 7205730580755178 (-56) := by
    decide +kernel
  have ungrouped : paddedPercent.useGrouping = some false := rfl
  have unset : paddedPercent.signDisplay = none := rfl
  exact ⟨finite, formatNumber_english finite ungrouped unset, by decide +kernel⟩

end IcuMessage
