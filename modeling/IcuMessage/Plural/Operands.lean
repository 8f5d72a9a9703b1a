import IcuMessage.Decimal.Shortest

/-!
# Operands of plural rules

Plural rules look at the decimal text of a number without its sign: at its
value, its whole part, and its fraction digits with and without zeros at the
end.  The whole part and the fraction digits have to fit in 64 bits.
-/

namespace IcuMessage

/-- The operands of a number. -/
structure PluralOperands where
  /-- The whole part. -/
  whole : Nat
  /-- The number of fraction digits. -/
  fractionCount : Nat
  /-- The fraction digits as a number. -/
  fraction : Nat
  /-- The fraction digits as a number, without zeros at the end. -/
  significantFraction : Nat
deriving DecidableEq, Repr

namespace PluralOperands

/-- The operands of a decimal number. -/
def ofDecimal? (magnitude : Decimal) : Option PluralOperands :=
  if magnitude.whole < Nat.pow 2 64 ∧ magnitude.fraction < Nat.pow 2 64 then
    some
      { whole := magnitude.whole
        fractionCount := magnitude.places
        fraction := magnitude.fraction
        significantFraction := (magnitude.shorten 0).fraction }
  else none

/-- The operands of a finite number. -/
def ofFloat? (value : Float) : Option PluralOperands :=
  match Numeral.ofFloat value with
  | .finite _ magnitude => ofDecimal? magnitude
  | _ => none

end PluralOperands

end IcuMessage
