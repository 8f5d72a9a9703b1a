import IcuMessage.Text.Integer

/-!
# Decimal numbers

A decimal number is a whole number of units of some decimal place.  The places
are part of the number: two numbers of one value may have different places,
and then have different texts.

`round` goes to a number of places, with halves away from zero; `extend` and
`shorten` add and remove zeros at the end.
-/

namespace IcuMessage

/-- The number `coefficient / 10 ^ places`, written with `places` digits behind
the point. -/
structure Decimal where
  coefficient : Nat
  places : Nat
deriving DecidableEq, Repr

namespace Decimal

/-- The whole part. -/
def whole (decimal : Decimal) : Nat :=
  decimal.coefficient / Nat.pow 10 decimal.places

/-- The digits behind the point, as a number. -/
def fraction (decimal : Decimal) : Nat :=
  decimal.coefficient % Nat.pow 10 decimal.places

/-- Digits with zeros in front, up to a number of digits. -/
def padStart (width : Nat) (digits : List Char) : List Char :=
  List.replicate (width - digits.length) '0' ++ digits

/-- The digits behind the point. -/
def fractionDigits (decimal : Decimal) : List Char :=
  if decimal.places = 0 then []
  else padStart decimal.places (Text.writeNat decimal.fraction)

/-- The digits of the whole part. -/
def wholeDigits (decimal : Decimal) : List Char :=
  Text.writeNat decimal.whole

/-- The text of a number, with a full stop before its places. -/
def write (decimal : Decimal) : List Char :=
  if decimal.places = 0 then decimal.wholeDigits
  else decimal.wholeDigits ++ '.' :: decimal.fractionDigits

/-- The hundredfold number, in two places less where there are any. -/
def hundredfold (decimal : Decimal) : Decimal :=
  ⟨decimal.coefficient * Nat.pow 10 (2 - decimal.places), decimal.places - 2⟩

/-- The nearest number with at most the given places; of two that are equally
near the greater one. -/
def round (places : Nat) (decimal : Decimal) : Decimal :=
  if decimal.places ≤ places then decimal
  else
    let unit := Nat.pow 10 (decimal.places - places)
    ⟨(2 * decimal.coefficient + unit) / (2 * unit), places⟩

/-- The number with at least the given places. -/
def extend (places : Nat) (decimal : Decimal) : Decimal :=
  if decimal.places < places then
    ⟨decimal.coefficient * Nat.pow 10 (places - decimal.places), places⟩
  else decimal

/-- Remove zeros at the end, at most `spare` of them. -/
def shortenBy (spare : Nat) (decimal : Decimal) : Decimal :=
  match spare with
  | 0 => decimal
  | spare + 1 =>
      if decimal.coefficient % 10 = 0 then
        shortenBy spare ⟨decimal.coefficient / 10, decimal.places - 1⟩
      else decimal

/-- The number without zeros at its end, but with at least the given places if
it has as many. -/
def shorten (places : Nat) (decimal : Decimal) : Decimal :=
  decimal.shortenBy (decimal.places - places)

end Decimal

end IcuMessage
