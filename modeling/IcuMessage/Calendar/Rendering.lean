import IcuMessage.Calendar.Civil
import IcuMessage.Calendar.Locales
import IcuMessage.Decimal.Basic
import IcuMessage.Number.Symbols

/-!
# Rendering of dates and times

A point in time is written in UTC, in the digits of the locale.  An option set
without any date or time field is replaced by the default of its category: a
numeric date, or an hour, a minute and a second.  The name of the time zone
follows the text of the fields.
-/

namespace IcuMessage

namespace CivilDateTime

/-- The year as it is counted in its era. -/
def yearOfEra (time : CivilDateTime) : Nat :=
  if 0 < time.year then time.year.toNat else (1 - time.year).toNat

/-- The era. -/
def era (names : CalendarNames) (time : CivilDateTime) : String :=
  if 0 < time.year then names.laterEra else names.earlierEra

/-- The hour on a clock with twelve hours. -/
def clockHour (time : CivilDateTime) : Nat :=
  if time.hour % 12 = 0 then 12 else time.hour % 12

/-- A number with at least the given digits. -/
def digits (numerals : Numerals) (width value : Nat) : List Char :=
  (Decimal.padStart width (Text.writeNat value)).map numerals.digit

/-- The name at a position. -/
def nameAt (names : List String) (index : Nat) : List Char :=
  (names[index]?.getD "").toList

/-- The part of the day: the last that has begun. -/
def dayPart (names : CalendarNames) (time : CivilDateTime) : String :=
  ((names.dayParts.reverse.find? fun part => part.1 ≤ time.hour).map Prod.snd).getD ""

/-- The text of a field. -/
def field (names : CalendarNames) (numerals : Numerals) (time : CivilDateTime)
    (letter : Char) (width : Nat) : List Char :=
  match letter, width with
  | 'y', 2 => digits numerals 2 (time.yearOfEra % 100)
  | 'y', _ => digits numerals 1 time.yearOfEra
  | 'M', 3 => nameAt names.shortMonths (time.month - 1)
  | 'L', 3 => nameAt names.loneShortMonths (time.month - 1)
  | 'M', 4 | 'L', 4 => nameAt names.months (time.month - 1)
  | 'M', width | 'L', width => digits numerals width time.month
  | 'd', width => digits numerals width time.day
  | 'E', 4 | 'c', 4 => nameAt names.weekdays time.weekday
  | 'E', _ => nameAt names.shortWeekdays time.weekday
  | 'c', _ => nameAt names.loneShortWeekdays time.weekday
  | 'h', width => digits numerals width time.clockHour
  | 'K', width => digits numerals width (time.hour % 12)
  | 'H', width => digits numerals width time.hour
  | 'm', width => digits numerals width time.minute
  | 's', width => digits numerals width time.second
  | 'a', _ => (if time.hour < 12 then names.beforeNoon else names.afterNoon).toList
  | 'B', _ => (time.dayPart names).toList
  | 'G', _ => (time.era names).toList
  | _, _ => []

/-- The text of the items of a pattern. -/
def renderItems (names : CalendarNames) (numerals : Numerals) (time : CivilDateTime)
    (items : List PatternItem) : List Char :=
  items.flatMap fun
    | .field letter width => time.field names numerals letter width
    | .literal character => [character]

end CivilDateTime

namespace CalendarData

/-- The years that two digits tell. -/
def tellsYear (year : Int) : Bool :=
  1950 ≤ year && year ≤ 2049

/-- The style in which a year is written.  It has an era if it is asked for, or
if the year is before 1000, and two digits only if they tell it. -/
def styleOf (style : YearStyle) (year : Int) : YearStyle :=
  if style = .withEra ∨ year < 1000 then .withEra
  else if style = .auto ∧ tellsYear year then .auto
  else .full

/-- The text of date fields. -/
def dateText (data : CalendarData) (numerals : Numerals) (fields : FieldSet)
    (date : DateFields) (time : CivilDateTime) : List Char :=
  time.renderItems data.names numerals
    (data.datePattern fields.length date (styleOf (fields.year.getD .full) time.year))

/-- The text of a time of day.  The pattern is the one for the clock, and the
hours are counted as they are asked for, or else as the pattern counts them. -/
def timeText (data : CalendarData) (numerals : Numerals) (cycle : Option HourCycle)
    (precision : TimePrecision) (time : CivilDateTime) : List Char :=
  let items := data.timePattern precision (cycle.map HourCycle.clock)
  time.renderItems data.names numerals
    (match cycle.bind HourCycle.letter? with
      | some hourLetter => items.map (PatternItem.countHours hourLetter)
      | none => items)

/-- The text of a weekday and a time of day with hours as usual. -/
def weekdayTimeText (data : CalendarData) (numerals : Numerals) (fields : FieldSet)
    (precision : TimePrecision) (time : CivilDateTime) : List Char :=
  match data.weekdayTimePattern? fields.length precision with
  | some items => time.renderItems data.names numerals items
  | none =>
      data.dateText numerals fields .weekday time ++ (data.glue .short).toList ++
        data.timeText numerals none precision time

/-- The text of the fields of a field set. -/
def text (data : CalendarData) (numerals : Numerals) (cycle : Option HourCycle)
    (fields : FieldSet) (time : CivilDateTime) : List Char :=
  match fields.date, fields.time with
  | none, none => []
  | some date, none => data.dateText numerals fields date time
  | none, some precision => data.timeText numerals cycle precision time
  | some date, some precision =>
      if date = .weekday ∧ cycle = none then
        data.weekdayTimeText numerals fields precision time
      else
        data.dateText numerals fields date time ++ (data.glue fields.length).toList ++
          data.timeText numerals cycle precision time

end CalendarData

/-- A formatter of field sets for a locale and a way of counting hours; it may
refuse with a reason. -/
abbrev FieldFormatter :=
  LocaleTag → Option HourCycle → FieldSet → CivilDateTime → Except String String

/-- The formatter of the locale data. -/
def localeFieldFormatter : FieldFormatter := fun tag cycle fields time =>
  .ok (String.ofList
    ((CalendarData.ofLocale tag).text (NumberSymbols.ofLocale tag).numerals cycle fields time))

namespace DateTimeOptions

/-- An hour, a minute and a second. -/
def clockTime : DateTimeOptions where
  hour := some .numeric
  minute := some .twoDigit
  second := some .twoDigit

/-- The options, or the default of the category if no field is asked for. -/
def orDefault (category : Category) (options : DateTimeOptions) : DateTimeOptions :=
  if options.asksForDate || options.asksForTime then options
  else match category with
    | .time => clockTime
    | .date | .number => numericDate

end DateTimeOptions

/-- The text of a point in time, written by a formatter of field sets.  Hours
are counted as the options ask for it, or else as the locale does. -/
def renderInstant (formatter : FieldFormatter) (tag : LocaleTag) (category : Category)
    (millis : Int64) (options : DateTimeOptions) : Except Failure String :=
  match CivilDateTime.ofEpochMillis? millis with
  | none => .error (.primitive category "timestamp was not in range")
  | some time =>
      let options := options.orDefault category
      let cycle := options.hourCycle? <|> tag.hourCycle?
      match formatter tag cycle options.fieldSet time with
      | .error reason => .error (.primitive category reason)
      | .ok text => .ok (if options.timeZoneName.isSome then text ++ " UTC" else text)

end IcuMessage
