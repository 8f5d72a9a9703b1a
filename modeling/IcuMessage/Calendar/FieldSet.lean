import IcuMessage.Locale.Tag
import IcuMessage.Style.Options

/-!
# Field sets

The fields of an option set select one of the known combinations of date
fields, the precision of the time, and the length of the pattern.  A year or a
month by itself cannot carry a time of day, so it is widened to a day then.

How hours are counted can be asked for by the options, or by the keyword `hc`
of a locale.
-/

namespace IcuMessage

/-- The combinations of date fields that have patterns. -/
inductive DateFields where
  | weekday
  | day
  | dayWeekday
  | month
  | monthDay
  | monthDayWeekday
  | year
  | yearMonth
  | yearMonthDay
  | yearMonthDayWeekday
deriving DecidableEq, Repr

/-- The last field of a time that is written. -/
inductive TimePrecision where
  | hour
  | minute
  | second
deriving DecidableEq, Repr

/-- How long a pattern is. -/
inductive PatternLength where
  | long
  | medium
  | short
deriving DecidableEq, Repr

/-- How a year is written. -/
inductive YearStyle where
  /-- With all its digits. -/
  | full
  /-- With two digits where that is clear. -/
  | auto
  /-- With its era. -/
  | withEra
deriving DecidableEq, Repr

/-- The clocks with twelve hours and with twenty-four. -/
inductive Clock where
  | twelve
  | twentyFour
deriving DecidableEq, Repr

/-- How hours are counted. -/
inductive HourCycle where
  /-- From 0 to 11. -/
  | h11
  /-- From 1 to 12. -/
  | h12
  /-- From 0 to 23. -/
  | h23
  /-- As the patterns of the locale for a clock with twelve hours count them. -/
  | c12
  /-- As the patterns of the locale for a clock with twenty-four hours count them. -/
  | c24
deriving DecidableEq, Repr

namespace HourCycle

/-- The clock on which the hours are read. -/
def clock : HourCycle → Clock
  | h11 | h12 | c12 => .twelve
  | h23 | c24 => .twentyFour

/-- The pattern letter for the hour, if it is not left to the pattern. -/
def letter? : HourCycle → Option Char
  | h11 => some 'K'
  | h12 => some 'h'
  | h23 => some 'H'
  | c12 | c24 => none

/-- The way of counting that a subtag names. -/
def ofSubtag? : Subtag → Option HourCycle
  | "h11" => some h11
  | "h12" => some h12
  | "h23" => some h23
  | "c12" => some c12
  | "c24" => some c24
  | _ => none

end HourCycle

/-- How hours are counted by the keyword of a locale. -/
def LocaleTag.hourCycle? (tag : LocaleTag) : Option HourCycle :=
  (tag.keywordWord? "hc").bind HourCycle.ofSubtag?

/-- What a date and time formatter is asked to write. -/
structure FieldSet where
  length : PatternLength
  date : Option DateFields
  time : Option TimePrecision
  /-- The style of the year, if there is one among the date fields. -/
  year : Option YearStyle
deriving DecidableEq, Repr

/-- The combination for the fields that are present, with the fields between
them that are missing.  A month beside a weekday brings a day with it. -/
def DateFields.pick : (year month day weekday : Bool) → Option DateFields
  | false, false, false, false => none
  | false, false, false, true => some .weekday
  | false, false, true, false => some .day
  | false, false, true, true => some .dayWeekday
  | false, true, false, false => some .month
  | false, true, true, false => some .monthDay
  | false, true, _, true => some .monthDayWeekday
  | true, false, false, false => some .year
  | true, true, false, false => some .yearMonth
  | true, _, _, false => some .yearMonthDay
  | true, _, _, true => some .yearMonthDayWeekday

/-- The combination beside a time of day. -/
def DateFields.widened : DateFields → DateFields
  | .year | .yearMonth => .yearMonthDay
  | .month => .monthDay
  | fields => fields

/-- There is a year among the fields. -/
def DateFields.hasYear : DateFields → Bool
  | .year | .yearMonth | .yearMonthDay | .yearMonthDayWeekday => true
  | _ => false

/-- There is a month among the fields. -/
def DateFields.hasMonth : DateFields → Bool
  | .month | .monthDay | .monthDayWeekday | .yearMonth | .yearMonthDay
  | .yearMonthDayWeekday => true
  | _ => false

/-- There is a day among the fields. -/
def DateFields.hasDay : DateFields → Bool
  | .day | .dayWeekday | .monthDay | .monthDayWeekday | .yearMonthDay
  | .yearMonthDayWeekday => true
  | _ => false

/-- There is a weekday among the fields. -/
def DateFields.hasWeekday : DateFields → Bool
  | .weekday | .dayWeekday | .monthDayWeekday | .yearMonthDayWeekday => true
  | _ => false

namespace DateTimeOptions

/-- The precision of the time. -/
def timePrecision (options : DateTimeOptions) : Option TimePrecision :=
  if options.second.isSome then some .second
  else if options.minute.isSome then some .minute
  else if options.hour.isSome then some .hour
  else none

/-- The combination of date fields.  An era asks for its year. -/
def dateFields (options : DateTimeOptions) : Option DateFields :=
  let picked := DateFields.pick (options.year.isSome || options.era.isSome)
    options.month.isSome options.day.isSome options.weekday.isSome
  if options.timePrecision.isSome then picked.map DateFields.widened else picked

/-- The length of the pattern: a month decides it, else a weekday.  Words make
the pattern medium, or long if they are long, and digits make it short. -/
def patternLength (options : DateTimeOptions) : PatternLength :=
  match options.month, options.weekday with
  | some .long, _ => .long
  | some .short, _ | some .narrow, _ => .medium
  | some .numeric, _ | some .twoDigit, _ => .short
  | none, some .long => .long
  | none, some _ => .medium
  | none, none => if options.asksForTime then .medium else .short

/-- The style of the year. -/
def yearStyle (options : DateTimeOptions) : YearStyle :=
  if options.era.isSome then .withEra
  else if options.year = some .twoDigit then .auto
  else .full

/-- The field set of the options. -/
def fieldSet (options : DateTimeOptions) : FieldSet where
  length := options.patternLength
  date := options.dateFields
  time := options.timePrecision
  year := if (options.dateFields.map DateFields.hasYear).getD false then
      some options.yearStyle
    else none

/-- How the options ask for hours to be counted. -/
def hourCycle? (options : DateTimeOptions) : Option HourCycle :=
  options.hour12.map fun twelve => if twelve then .h12 else .h23

end DateTimeOptions

end IcuMessage
