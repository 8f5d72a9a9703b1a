import IcuMessage.Decimal.Shortest
import IcuMessage.Number.Symbols
import IcuMessage.Style.Options

/-!
# Rendering of numbers

A number is rounded on the digits of its shortest decimal text, with halves
away from zero, and keeps its sign even if it is rounded to zero.  Zeros at
the end go, down to the least number of fraction digits.  A percentage is the
hundredfold number with a percent sign behind it; in an amount of currency the
sign stands before the symbol of the currency.
-/

namespace IcuMessage

/-- The sign in front of a number. -/
inductive Sign where
  | none
  | minus
  | plus
deriving DecidableEq, Repr

/-- The sign of a number that is negative or zero or not, if it is displayed in
the given way. -/
def SignDisplay.sign (display : SignDisplay) (negative isZero : Bool) : Sign :=
  match display with
  | .auto => if negative then .minus else .none
  | .always => if negative then .minus else .plus
  | .never => .none
  | .exceptZero => if isZero then .none else if negative then .minus else .plus

namespace Sign

/-- The sign in the symbols of a locale. -/
def localized (symbols : NumberSymbols) : Sign → List Char
  | .none => []
  | .minus => symbols.minus.toList
  | .plus => symbols.plus.toList

/-- The sign in ASCII. -/
def plain : Sign → List Char
  | .none => []
  | .minus => ['-']
  | .plus => ['+']

end Sign

namespace NumberOptions

/-- The number that is written for a number: hundredfold for a percentage,
rounded, and without spare zeros at its end. -/
def rounded (options : NumberOptions) (magnitude : Decimal) : Decimal :=
  let digits := options.fractionBounds
  let scaled := if options.styleOrDecimal = .percent then magnitude.hundredfold else magnitude
  ((scaled.round digits.2.toNat).shorten digits.1.toNat).extend digits.1.toNat

/-- The sign that is written before a number. -/
def sign (options : NumberOptions) (negative : Bool) (rounded : Decimal) : Sign :=
  (options.signDisplay.getD .auto).sign negative (rounded.coefficient == 0)

/-- The digits of the whole part, with zeros in front of them if there are less
than the least number. -/
def wholeDigits (options : NumberOptions) (rounded : Decimal) : List Char :=
  Decimal.padStart ((options.minimumIntegerDigits.map UInt8.toNat).getD 0) rounded.wholeDigits

end NumberOptions

namespace NumberSymbols

/-- A group sign stands behind the digit that has `later` digits behind it, in
a whole part of `total` digits. -/
def separates (symbols : NumberSymbols) (total later : Nat) : Bool :=
  3 ≤ later && (later - 3) % symbols.laterGroups == 0 && 3 + symbols.minimumGrouping ≤ total

/-- The digits of a whole part of `total` digits, with group signs. -/
def grouped (symbols : NumberSymbols) (total : Nat) : List Char → List Char
  | [] => []
  | first :: rest =>
      if symbols.separates total rest.length then
        symbols.numerals.digit first :: symbols.group.toList ++ symbols.grouped total rest
      else symbols.numerals.digit first :: symbols.grouped total rest

/-- The digits of a number in the symbols of a locale. -/
def digits (symbols : NumberSymbols) (useGrouping : Bool)
    (whole fraction : List Char) : List Char :=
  let wholeText :=
    if useGrouping then symbols.grouped whole.length whole else whole.map symbols.numerals.digit
  if fraction.isEmpty then wholeText
  else wholeText ++ symbols.decimal.toList ++ fraction.map symbols.numerals.digit

end NumberSymbols

/-- The signs of the currencies that have one. -/
def currencySigns : List (String × String) :=
  [("USD", "$"), ("EUR", "€"), ("GBP", "£"), ("JPY", "¥"), ("INR", "₹"), ("KRW", "₩")]

/-- What stands before an amount of a currency: its sign, or its code and a
no-break space. -/
def currencyMark (code : String) : List Char :=
  match currencySigns.lookup code with
  | some sign => sign.toList
  | none => code.toList ++ ['\u00a0']

/-- The text of a finite number. -/
def renderFinite (symbols : NumberSymbols) (options : NumberOptions)
    (negative : Bool) (magnitude : Decimal) : List Char :=
  let rounded := options.rounded magnitude
  let sign := options.sign negative rounded
  let digits := symbols.digits (options.useGrouping != some false)
    (options.wholeDigits rounded) rounded.fractionDigits
  match options.styleOrDecimal with
  | .decimal => sign.localized symbols ++ digits
  | .percent => sign.localized symbols ++ digits ++ ['%']
  | .currency => sign.plain ++ currencyMark (options.currency.getD "USD") ++ digits

/-- The text of a number. -/
def renderNumber (symbols : NumberSymbols) (options : NumberOptions) (value : Float) : String :=
  match Numeral.ofFloat value with
  | .notANumber => "NaN"
  | .infinite false => "∞"
  | .infinite true => "-∞"
  | .finite negative magnitude =>
      String.ofList (renderFinite symbols options negative magnitude)

end IcuMessage
