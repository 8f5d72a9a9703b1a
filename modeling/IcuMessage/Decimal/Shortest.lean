import IcuMessage.Decimal.Basic
import IcuMessage.Decimal.Binary64

/-!
# Shortest decimal texts of floats

A float is written with the fewest digits that read back as the same float,
and of those with the digits nearest to it; of two that are equally near, with
the greater.  The text is always positional, without an exponent.

The decimals that read back as a float form an interval around it.  The fewest
digits are those of the coarsest power of ten that has a multiple there, so
the powers of ten are tried from the greatest on.  In each of them only the
two multiples next to the float have to be looked at.
-/

namespace IcuMessage

namespace Shortest

/-- The interval of the numbers that round to `mantissa * 2 ^ exponent`, in
units of a quarter of `2 ^ exponent`.  Below the least mantissa of an exponent
the neighbour is only half as far away. -/
structure Interval where
  lower : Nat
  centre : Nat
  upper : Nat
  /-- The two ends belong to the interval. -/
  closed : Bool
  exponent : Int
deriving DecidableEq, Repr

/-- The interval of a positive finite number. -/
def interval (mantissa : Nat) (exponent : Int) : Interval where
  lower := if mantissa = Nat.pow 2 52 ∧ -1074 < exponent then 4 * mantissa - 1 else 4 * mantissa - 2
  centre := 4 * mantissa
  upper := 4 * mantissa + 2
  closed := mantissa % 2 == 0
  exponent := exponent - 2

/-- A power of ten against the unit of an interval: both as multiples of one
rational number. -/
structure Scale where
  /-- The unit of the interval. -/
  binary : Nat
  /-- The power of ten. -/
  decimal : Nat
deriving DecidableEq, Repr

/-- The scale of a power of ten against a power of two. -/
def scale (power : Int) (exponent : Int) : Scale where
  binary := Nat.pow 2 exponent.toNat * Nat.pow 10 (-power).toNat
  decimal := Nat.pow 10 power.toNat * Nat.pow 2 (-exponent).toNat

/-- A multiple of the power of ten lies in the interval. -/
def Interval.holds (range : Interval) (scale : Scale) (multiple : Nat) : Bool :=
  let position := multiple * scale.decimal
  if range.closed then
    range.lower * scale.binary ≤ position && position ≤ range.upper * scale.binary
  else
    range.lower * scale.binary < position && position < range.upper * scale.binary

/-- The multiple of a power of ten that lies in the interval, the nearest to
the centre if there are several. -/
def Interval.multiple? (range : Interval) (power : Int) : Option Nat :=
  let scale := scale power range.exponent
  let position := range.centre * scale.binary
  let below := position / scale.decimal
  match range.holds scale below, range.holds scale (below + 1) with
  | false, false => none
  | true, false => some below
  | false, true => some (below + 1)
  | true, true =>
      if (2 * below + 1) * scale.decimal ≤ 2 * position then some (below + 1) else some below

/-- The greatest power of ten that is tried. -/
def greatestPower : Int := 309

/-- The first hit among `count` powers of ten, from a greatest one on. -/
def search (range : Interval) (power : Int) : Nat → Option (Nat × Int)
  | 0 => none
  | count + 1 =>
      match range.multiple? power with
      | some multiple => some (multiple, power)
      | none => search range (power - 1) count

/-- A multiple of a power of ten as a decimal number. -/
def decimalOf (multiple : Nat) (power : Int) : Decimal :=
  ⟨multiple * Nat.pow 10 power.toNat, (-power).toNat⟩

/-- The decimal number with the fewest digits that reads back as
`mantissa * 2 ^ exponent`.  The powers of ten from `greatestPower` down to the
place of the least positive float are enough for every float. -/
def decimal (mantissa : Nat) (exponent : Int) : Decimal :=
  if mantissa = 0 then ⟨0, 0⟩
  else match search (interval mantissa exponent) greatestPower 634 with
    | some (multiple, power) => decimalOf multiple power
    | none => ⟨0, 0⟩

end Shortest

/-- What a float is written as. -/
inductive Numeral where
  | notANumber
  | infinite (negative : Bool)
  | finite (negative : Bool) (magnitude : Decimal)
deriving DecidableEq, Repr

namespace Numeral

/-- The shortest decimal form of a number. -/
def ofBinary64 : Binary64 → Numeral
  | .notANumber => .notANumber
  | .infinite negative => .infinite negative
  | .finite negative mantissa exponent => .finite negative (Shortest.decimal mantissa exponent)

/-- The shortest decimal form of a float. -/
def ofFloat (value : Float) : Numeral :=
  ofBinary64 (Binary64.ofFloat value)

/-- The text of a number: a minus sign if the sign is set, on zero too, and
words for the values that are not finite. -/
def write : Numeral → List Char
  | .notANumber => "NaN".toList
  | .infinite false => "inf".toList
  | .infinite true => "-inf".toList
  | .finite false magnitude => magnitude.write
  | .finite true magnitude => '-' :: magnitude.write

end Numeral

/-- The shortest decimal text of a float. -/
def writeFloat (value : Float) : String :=
  String.ofList (Numeral.ofFloat value).write

end IcuMessage
