import IcuMessage.Calendar.FieldSet
import IcuMessage.Calendar.Skeleton

/-!
# Calendar data

What a locale writes dates and times with: its names, its patterns, the clock in
use, and the widths of the fields in a whole date of each length.  A year brings
these widths along.  Without a year only a short day and month have them.
-/

namespace IcuMessage

/-- The names of a language.  Months and weekdays have short names for use
inside of a date, and others for use on their own. -/
structure CalendarNames where
  months : List String
  shortMonths : List String
  loneShortMonths : List String
  /-- From Monday on. -/
  weekdays : List String
  shortWeekdays : List String
  loneShortWeekdays : List String
  beforeNoon : String := "AM"
  afterNoon : String := "PM"
  /-- The era before the year 1. -/
  earlierEra : String := "BC"
  /-- The era from the year 1 on. -/
  laterEra : String := "AD"
  /-- The parts of a day, with the hours from which on they last. -/
  dayParts : List (Nat × String) := []
deriving DecidableEq, Repr

/-- What a locale writes dates and times with. -/
structure CalendarData where
  names : CalendarNames
  /-- The skeleton of a whole date. -/
  wholeDate : PatternLength → String
  /-- The clock in use. -/
  clock : Clock
  /-- The text between a date and a time. -/
  glue : PatternLength → String
  /-- Skeletons with their patterns. -/
  formats : List (String × String)

namespace CalendarData

/-- The same data with other formats; skeletons that are new stand first. -/
def adopting (data : CalendarData) (formats : List (String × String)) : CalendarData :=
  { data with formats := formats ++ data.formats }

/-- The same data with another clock in use. -/
def onClock (data : CalendarData) (clock : Clock) : CalendarData :=
  { data with clock := clock }

/-- The same data with another skeleton of a short date. -/
def withShortDate (data : CalendarData) (skeleton : String) : CalendarData :=
  { data with
    wholeDate := fun
      | .short => skeleton
      | length => data.wholeDate length }

/-- The same data with other skeletons of whole dates. -/
def withWholeDates (data : CalendarData) (long medium short : String) : CalendarData :=
  { data with
    wholeDate := fun
      | .long => long
      | .medium => medium
      | .short => short }

/-- The same data with other names for the halves of a day. -/
def withDayHalves (data : CalendarData) (beforeNoon afterNoon : String) : CalendarData :=
  { data with
    names := { data.names with beforeNoon := beforeNoon, afterNoon := afterNoon } }

/-- The format closest to a request. -/
def closestFormat? (data : CalendarData) (requested : Skeleton) : Option DateFormat :=
  DateFormat.closest? requested (data.formats.map DateFormat.ofTexts)

/-- The pattern for a request. -/
def patternFor (data : CalendarData) (requested : Skeleton) : List PatternItem :=
  ((data.closestFormat? requested).map (DateFormat.fitted requested)).getD []

/-- The width of a field in a whole date. -/
def wholeWidth (data : CalendarData) (length : PatternLength) (letter : Char) : Nat :=
  (((Skeleton.ofText (data.wholeDate length)).field? letter).map SkeletonField.width).getD 1

/-- The width of a month. -/
def monthWidth (data : CalendarData) (length : PatternLength) (date : DateFields) : Nat :=
  if date.hasYear then data.wholeWidth length 'M'
  else match length with
    | .long => 4
    | .medium => 3
    | .short => if date.hasDay then data.wholeWidth .short 'M' else 1

/-- The width of a day. -/
def dayWidth (data : CalendarData) (length : PatternLength) (date : DateFields) : Nat :=
  if date.hasYear ∨ date.hasMonth ∧ length = .short then data.wholeWidth length 'd' else 1

/-- The skeleton for a weekday. -/
def weekdaySkeleton (length : PatternLength) : Skeleton :=
  [⟨'E', if length = .long then 4 else 3⟩]

/-- The skeleton for date fields. -/
def dateSkeleton (data : CalendarData) (length : PatternLength) (date : DateFields)
    (style : YearStyle) : Skeleton :=
  (if date.hasYear && style = .withEra then [⟨'G', 3⟩] else []) ++
  (if date.hasYear then
    [⟨'y', if style = .auto then data.wholeWidth length 'y' else 1⟩] else []) ++
  (if date.hasMonth then [⟨'M', data.monthWidth length date⟩] else []) ++
  (if date.hasDay then [⟨'d', data.dayWidth length date⟩] else []) ++
  (if date.hasWeekday then weekdaySkeleton length else [])

/-- The pattern for date fields. -/
def datePattern (data : CalendarData) (length : PatternLength) (date : DateFields)
    (style : YearStyle) : List PatternItem :=
  data.patternFor (data.dateSkeleton length date style)

/-- The skeleton for a time of day. -/
def timeSkeleton (clock : Clock) (precision : TimePrecision) : Skeleton :=
  let hour : SkeletonField := ⟨match clock with | .twelve => 'h' | .twentyFour => 'H', 1⟩
  match precision with
  | .hour => [hour]
  | .minute => [hour, ⟨'m', 1⟩]
  | .second => [hour, ⟨'m', 1⟩, ⟨'s', 1⟩]

/-- The pattern for a time of day on a clock, or else on the one in use. -/
def timePattern (data : CalendarData) (precision : TimePrecision) (clock : Option Clock) :
    List PatternItem :=
  data.patternFor (timeSkeleton (clock.getD data.clock) precision)

/-- The pattern for a weekday and a time of day on the clock in use, if there is
a format for both together. -/
def weekdayTimePattern? (data : CalendarData) (length : PatternLength)
    (precision : TimePrecision) : Option (List PatternItem) :=
  let requested := weekdaySkeleton length ++ timeSkeleton data.clock precision
  ((data.closestFormat? requested).filter (DateFormat.answers requested)).map
    (DateFormat.fitted requested)

end CalendarData

end IcuMessage
