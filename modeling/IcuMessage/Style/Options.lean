import IcuMessage.Message.Basic

/-!
# Option sets

Option sets tell a primitive formatter how to write a value.  Every option may
be left open.  `overlay` puts the options that one set settles over those of
another; the sets form a monoid under it, with the open set as its unit.
-/

namespace IcuMessage

/-- What a number is written as. -/
inductive NumberStyle where
  | decimal
  | percent
  | currency
deriving DecidableEq, Repr

/-- When the sign of a number is written. -/
inductive SignDisplay where
  | auto
  | always
  | never
  | exceptZero
deriving DecidableEq, Repr

/-- The options for numbers. -/
structure NumberOptions where
  style : Option NumberStyle := none
  /-- The ISO 4217 code of a currency. -/
  currency : Option String := none
  minimumIntegerDigits : Option UInt8 := none
  minimumFractionDigits : Option UInt8 := none
  maximumFractionDigits : Option UInt8 := none
  useGrouping : Option Bool := none
  signDisplay : Option SignDisplay := none
deriving DecidableEq, Inhabited, Repr

namespace NumberOptions

/-- The style, which is decimal unless it is settled. -/
def styleOrDecimal (options : NumberOptions) : NumberStyle :=
  options.style.getD .decimal

/-- The least and the greatest number of fraction digits that a style has by
itself. -/
def defaultFractionBounds : NumberStyle → UInt8 × UInt8
  | .decimal => (0, 3)
  | .percent => (0, 0)
  | .currency => (2, 2)

/-- The least and the greatest number of fraction digits.  A settled minimum
raises an open maximum, and no maximum lies below the minimum. -/
def fractionBounds (options : NumberOptions) : UInt8 × UInt8 :=
  let defaults := defaultFractionBounds options.styleOrDecimal
  let least := options.minimumFractionDigits.getD defaults.1
  let greatest := options.maximumFractionDigits.getD (max defaults.2 least)
  (least, max greatest least)

/-- The options of `upper`, and those of `lower` where `upper` leaves them open. -/
def overlay (lower upper : NumberOptions) : NumberOptions where
  style := upper.style.or lower.style
  currency := upper.currency.or lower.currency
  minimumIntegerDigits := upper.minimumIntegerDigits.or lower.minimumIntegerDigits
  minimumFractionDigits := upper.minimumFractionDigits.or lower.minimumFractionDigits
  maximumFractionDigits := upper.maximumFractionDigits.or lower.maximumFractionDigits
  useGrouping := upper.useGrouping.or lower.useGrouping
  signDisplay := upper.signDisplay.or lower.signDisplay

@[simp]
theorem overlay_open (options : NumberOptions) : options.overlay {} = options := by
  simp [overlay]

@[simp]
theorem open_overlay (options : NumberOptions) : overlay {} options = options := by
  simp [overlay]

theorem overlay_assoc (first second third : NumberOptions) :
    (first.overlay second).overlay third = first.overlay (second.overlay third) := by
  simp [overlay, Option.or_assoc]

end NumberOptions

/-- How wide a date or time field is written. -/
inductive FieldWidth where
  | numeric
  | twoDigit
  | short
  | long
  | narrow
deriving DecidableEq, Repr

/-- The options for dates and times. -/
structure DateTimeOptions where
  weekday : Option FieldWidth := none
  era : Option FieldWidth := none
  year : Option FieldWidth := none
  month : Option FieldWidth := none
  day : Option FieldWidth := none
  hour : Option FieldWidth := none
  minute : Option FieldWidth := none
  second : Option FieldWidth := none
  timeZoneName : Option FieldWidth := none
  hour12 : Option Bool := none
deriving DecidableEq, Inhabited, Repr

namespace DateTimeOptions

/-- Some field of a date is asked for. -/
def asksForDate (options : DateTimeOptions) : Bool :=
  options.weekday.isSome || options.era.isSome || options.year.isSome ||
    options.month.isSome || options.day.isSome

/-- Some field of a time is asked for. -/
def asksForTime (options : DateTimeOptions) : Bool :=
  options.hour.isSome || options.minute.isSome || options.second.isSome

/-- The options of `upper`, and those of `lower` where `upper` leaves them open. -/
def overlay (lower upper : DateTimeOptions) : DateTimeOptions where
  weekday := upper.weekday.or lower.weekday
  era := upper.era.or lower.era
  year := upper.year.or lower.year
  month := upper.month.or lower.month
  day := upper.day.or lower.day
  hour := upper.hour.or lower.hour
  minute := upper.minute.or lower.minute
  second := upper.second.or lower.second
  timeZoneName := upper.timeZoneName.or lower.timeZoneName
  hour12 := upper.hour12.or lower.hour12

@[simp]
theorem overlay_open (options : DateTimeOptions) : options.overlay {} = options := by
  simp [overlay]

@[simp]
theorem open_overlay (options : DateTimeOptions) : overlay {} options = options := by
  simp [overlay]

theorem overlay_assoc (first second third : DateTimeOptions) :
    (first.overlay second).overlay third = first.overlay (second.overlay third) := by
  simp [overlay, Option.or_assoc]

/-- A numeric year, month and day. -/
def numericDate : DateTimeOptions where
  year := some .numeric
  month := some .numeric
  day := some .numeric

end DateTimeOptions

/-- The named styles of a caller, one table for each category. -/
structure StyleSheet where
  number : List (String × NumberOptions) := []
  date : List (String × DateTimeOptions) := []
  time : List (String × DateTimeOptions) := []
deriving DecidableEq, Inhabited, Repr

/-- The three tables of a style sheet are ordered. -/
def StyleSheet.Ordered (sheet : StyleSheet) : Prop :=
  Table.Ascending sheet.number ∧ Table.Ascending sheet.date ∧ Table.Ascending sheet.time

end IcuMessage
