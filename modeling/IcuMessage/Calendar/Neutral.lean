import IcuMessage.Calendar.Data

/-!
# Dates and times of no language

A locale without data writes a date with the year first and with hyphens, and
numbers its months.
-/

namespace IcuMessage

namespace CalendarData

/-- The months by their numbers. -/
def numberedMonths : List String :=
  ["M01", "M02", "M03", "M04", "M05", "M06", "M07", "M08", "M09", "M10", "M11", "M12"]

/-- The weekdays in their short form, the only one of the neutral names. -/
def neutralWeekdays : List String :=
  ["Mon", "Tue", "Wed", "Thu", "Fri", "Sat", "Sun"]

/-- Names of no language. -/
def neutralNames : CalendarNames where
  months := numberedMonths
  shortMonths := numberedMonths
  loneShortMonths := numberedMonths
  weekdays := neutralWeekdays
  shortWeekdays := neutralWeekdays
  loneShortWeekdays := neutralWeekdays
  earlierEra := "BCE"
  laterEra := "CE"

/-- The calendar data of no language. -/
def neutral : CalendarData where
  names := neutralNames
  wholeDate
    | .long => "yMMMMd"
    | .medium => "yMMMd"
    | .short => "yMMdd"
  clock := .twentyFour
  glue := fun _ => " "
  formats := [
    ("Gy", "G y"), ("GyM", "G y-MM"), ("GyMd", "G y-MM-dd"), ("GyMEd", "G y-MM-dd, E"),
    ("GyMMM", "G y MMM"), ("GyMMMd", "G y MMM d"), ("GyMMMEd", "G y MMM d, E"), ("y", "y"),
    ("yM", "y-MM"), ("yMd", "y-MM-dd"), ("yMEd", "y-MM-dd, E"), ("yMMM", "y MMM"),
    ("yMMMd", "y MMM d"), ("yMMMEd", "y MMM d, E"), ("yMMMM", "y MMMM"), ("M", "L"),
    ("Md", "MM-dd"), ("MEd", "MM-dd, E"), ("MMM", "LLL"), ("MMMd", "MMM d"),
    ("MMMEd", "MMM d, E"), ("MMMMd", "MMMM d"), ("d", "d"), ("Ed", "d, E"), ("E", "ccc"),
    ("EHm", "E HH:mm"), ("EHms", "E HH:mm:ss"), ("h", "h\u202fa"), ("hm", "h:mm a"),
    ("hms", "h:mm:ss a"), ("H", "HH"), ("Hm", "HH:mm"), ("Hms", "HH:mm:ss")]

end CalendarData

end IcuMessage
