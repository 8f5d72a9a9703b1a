import IcuMessage.Text.Blank
import IcuMessage.Text.Integer
import IcuMessage.Text.Prefix

/-!
# Reading floats

A float is read from an optional sign and `inf`, `infinity` or `nan` in any
case, or digits with an optional point and an optional exponent.  One side of
the point may be empty, and the exponent needs a digit.  The float is the one
nearest to the number, with ties to the even mantissa.
-/

namespace IcuMessage

/-- A number in decimal scientific notation. -/
structure Scientific where
  coefficient : Nat
  exponent : Int
deriving DecidableEq, Repr

namespace Scientific

/-- An exponent: an optional sign and at least one digit. -/
def exponent? (text : List Char) : Option Int :=
  match text with
  | '-' :: digits => (Text.readNat? digits).map fun value => -(value : Int)
  | '+' :: digits => (Text.readNat? digits).map Int.ofNat
  | digits => (Text.readNat? digits).map Int.ofNat

/-- The exponent behind the digits of a number, which may be missing. -/
def exponentSuffix? : List Char → Option Int
  | [] => some 0
  | mark :: rest => if mark = 'e' ∨ mark = 'E' then exponent? rest else none

/-- The number that a text without a sign denotes. -/
def read? (text : List Char) : Option Scientific :=
  let (whole, afterWhole) := text.span Char.isDigit
  let (fraction, afterFraction) := match afterWhole with
    | '.' :: rest => rest.span Char.isDigit
    | rest => ([], rest)
  if whole.isEmpty && fraction.isEmpty then none
  else (exponentSuffix? afterFraction).map fun exponent =>
    ⟨Nat.ofDigitChars 10 (whole ++ fraction) 0, exponent - fraction.length⟩

/-- One more than the power of ten of the leading digit. -/
def order (number : Scientific) : Int :=
  (Text.writeNat number.coefficient).length + number.exponent

/-- The float nearest to the number.  Numbers far outside the range of floats
are told by their order alone. -/
def toFloat (number : Scientific) : Float :=
  if number.coefficient = 0 ∨ number.order < -400 then 0.0
  else if 400 < number.order then 1.0 / 0.0
  else if number.exponent < 0 then
    Float.ofScientific number.coefficient true number.exponent.natAbs
  else Float.ofScientific number.coefficient false number.exponent.natAbs

end Scientific

/-- The float that a text without a sign denotes. -/
def readMagnitude? (text : List Char) : Option Float :=
  let word := String.ofList (text.map Char.toLower)
  if word = "inf" ∨ word = "infinity" then some (1.0 / 0.0)
  else if word = "nan" then some (0.0 / 0.0)
  else (Scientific.read? text).map Scientific.toFloat

/-- The float that a text denotes. -/
def readFloat? (text : List Char) : Option Float :=
  match text with
  | '-' :: rest => (readMagnitude? rest).map Float.neg
  | '+' :: rest => readMagnitude? rest
  | rest => readMagnitude? rest

end IcuMessage
