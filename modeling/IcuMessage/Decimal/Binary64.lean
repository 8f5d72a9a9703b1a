import IcuMessage.Text.Integer

/-!
# Binary floating-point numbers, exactly

A finite number of 64 bits is a sign, a mantissa and a power of two.  On this
view its whole part, and whether it is whole, are questions about natural
numbers.
-/

namespace IcuMessage

/-- What a number of 64 bits denotes. -/
inductive Binary64 where
  | notANumber
  | infinite (negative : Bool)
  /-- The number `mantissa * 2 ^ exponent`, or its opposite. -/
  | finite (negative : Bool) (mantissa : Nat) (exponent : Int)
deriving DecidableEq, Repr

namespace Binary64

/-- The number that a sign bit, an exponent field and a fraction field denote. -/
def ofFields (negative : Bool) (exponentField fractionField : Nat) : Binary64 :=
  if exponentField = 2047 then
    if fractionField = 0 then .infinite negative else .notANumber
  else if exponentField = 0 then .finite negative fractionField (-1074)
  else .finite negative (Nat.pow 2 52 + fractionField) ((exponentField : Int) - 1075)

/-- The number that 64 bits denote. -/
def ofBits (bits : Nat) : Binary64 :=
  ofFields (Nat.pow 2 63 ≤ bits) (bits / Nat.pow 2 52 % 2048) (bits % Nat.pow 2 52)

/-- The number that a float denotes. -/
def ofFloat (value : Float) : Binary64 :=
  ofBits value.toBits.toNat

/-- The whole part of `mantissa * 2 ^ exponent`. -/
def wholeMagnitude (mantissa : Nat) (exponent : Int) : Nat :=
  mantissa * Nat.pow 2 exponent.toNat / Nat.pow 2 (-exponent).toNat

/-- The whole part of a finite number: towards zero. -/
def truncated? : Binary64 → Option Int
  | .finite false mantissa exponent => some (wholeMagnitude mantissa exponent)
  | .finite true mantissa exponent => some (-(wholeMagnitude mantissa exponent : Int))
  | _ => none

/-- The number as an integer, if it is one. -/
def integer? (number : Binary64) : Option Int :=
  match number with
  | .finite _ mantissa exponent =>
      if mantissa * Nat.pow 2 exponent.toNat % Nat.pow 2 (-exponent).toNat = 0 then
        number.truncated?
      else none
  | _ => none

/-- The number without its sign. -/
def magnitude : Binary64 → Binary64
  | .notANumber => .notANumber
  | .infinite _ => .infinite false
  | .finite _ mantissa exponent => .finite false mantissa exponent

end Binary64

/-- The nearest signed 64-bit integer to an integer. -/
def clampInt64 (value : Int) : Int64 :=
  Int64.ofInt (max Int64.minValue.toInt (min value Int64.maxValue.toInt))

/-- The float nearest to a signed 64-bit integer. -/
def floatOfInt64 (value : Int64) : Float :=
  Float.ofInt value.toInt

end IcuMessage
