/-!
# Integers in text

Integers are written in decimal, with a minus sign in front of the negative
ones.  They are read with an optional sign of either kind and any number of
leading zeros, from ASCII digits alone, and must fit in 64 bits.
-/

namespace IcuMessage.Text

/-- The number that a non-empty run of ASCII digits denotes. -/
def readNat? (text : List Char) : Option Nat :=
  if text.isEmpty || !text.all Char.isDigit then none
  else some (Nat.ofDigitChars 10 text 0)

/-- The number as a signed 64-bit integer, if it is one. -/
def int64OfInt? (value : Int) : Option Int64 :=
  if Int64.minValue.toInt ≤ value ∧ value ≤ Int64.maxValue.toInt then
    some (Int64.ofInt value)
  else none

/-- The signed 64-bit integer that a text denotes. -/
def readInt64? (text : List Char) : Option Int64 :=
  match text with
  | '-' :: digits => (readNat? digits).bind fun value => int64OfInt? (-value)
  | '+' :: digits => (readNat? digits).bind fun value => int64OfInt? value
  | digits => (readNat? digits).bind fun value => int64OfInt? value

/-- The decimal digits of a number, without leading zeros. -/
def writeNat (value : Nat) : List Char :=
  Nat.toDigits 10 value

/-- The decimal digits of an integer behind the minus sign of a negative one. -/
def writeInt64 (value : Int64) : List Char :=
  if value.toInt < 0 then '-' :: writeNat value.toInt.natAbs
  else writeNat value.toInt.natAbs

theorem readNat?_writeNat (value : Nat) : readNat? (writeNat value) = some value := by
  have digits : (Nat.toDigits 10 value).all Char.isDigit = true :=
    List.all_eq_true.mpr fun character member =>
      Nat.isDigit_of_mem_toDigits (by decide) (by decide) member
  have filled : (Nat.toDigits 10 value).isEmpty = false := by
    cases shape : Nat.toDigits 10 value with
    | nil => exact absurd shape Nat.toDigits_ne_nil
    | cons head rest => rfl
  simp [readNat?, writeNat, digits, filled]

end IcuMessage.Text
