import IcuMessage.Calendar.Data

/-!
# German dates and times

Points stand behind the numbers of a day and a month.  In Austria and South
Tyrol January has another name.
-/

namespace IcuMessage

namespace CalendarData

/-- German names. -/
def germanNames : CalendarNames where
  months := ["Januar", "Februar", "März", "April", "Mai", "Juni", "Juli", "August",
    "September", "Oktober", "November", "Dezember"]
  shortMonths := ["Jan.", "Feb.", "März", "Apr.", "Mai", "Juni", "Juli", "Aug.", "Sept.",
    "Okt.", "Nov.", "Dez."]
  loneShortMonths := ["Jan", "Feb", "Mär", "Apr", "Mai", "Jun", "Jul", "Aug", "Sep", "Okt",
    "Nov", "Dez"]
  weekdays := ["Montag", "Dienstag", "Mittwoch", "Donnerstag", "Freitag", "Samstag",
    "Sonntag"]
  shortWeekdays := ["Mo.", "Di.", "Mi.", "Do.", "Fr.", "Sa.", "So."]
  loneShortWeekdays := ["Mo", "Di", "Mi", "Do", "Fr", "Sa", "So"]
  earlierEra := "v. Chr."
  laterEra := "n. Chr."
  dayParts := [(0, "nachts"), (5, "morgens"), (10, "vorm."), (12, "mittags"), (13, "nachm."),
    (18, "abends")]

/-- German. -/
def german : CalendarData where
  names := germanNames
  wholeDate
    | .long => "yMMMMd"
    | .medium => "yMMdd"
    | .short => "yyMMdd"
  clock := .twentyFour
  glue
    | .long => " um "
    | .medium | .short => ", "
  formats := [
    ("Gy", "y G"), ("GyM", "MM/y G"), ("GyMd", "dd.MM.y G"), ("GyMEd", "E, dd.MM.y G"),
    ("GyMMM", "MMM y G"), ("GyMMMd", "d. MMM y G"), ("GyMMMEd", "E, d. MMM y G"), ("y", "y"),
    ("yM", "M/y"), ("yMd", "d.M.y"), ("yMEd", "E, d.M.y"), ("yMM", "MM/y"),
    ("yMMdd", "dd.MM.y"), ("yMMM", "MMM y"), ("yMMMd", "d. MMM y"), ("yMMMEd", "E, d. MMM y"),
    ("yMMMM", "MMMM y"), ("M", "L"), ("Md", "d.M."), ("MEd", "E, d.M."), ("MMd", "dd.MM."),
    ("MMdd", "dd.MM."), ("MMM", "LLL"), ("MMMd", "d. MMM"), ("MMMEd", "E, d. MMM"),
    ("MMMMd", "d. MMMM"), ("MMMMEd", "E, d. MMMM"), ("d", "d"), ("Ed", "E, d."), ("E", "ccc"),
    ("EHm", "E, HH:mm"), ("EHms", "E, HH:mm:ss"), ("h", "h 'Uhr' B"), ("hm", "h:mm\u202fa"),
    ("hms", "h:mm:ss\u202fa"), ("H", "HH 'Uhr'"), ("Hm", "HH:mm"), ("Hms", "HH:mm:ss")]

/-- German names in Austria and South Tyrol. -/
def austrianNames : CalendarNames :=
  { germanNames with
    months := ["Jänner", "Februar", "März", "April", "Mai", "Juni", "Juli", "August",
      "September", "Oktober", "November", "Dezember"]
    shortMonths := ["Jän.", "Feb.", "März", "Apr.", "Mai", "Juni", "Juli", "Aug.", "Sep.",
      "Okt.", "Nov.", "Dez."]
    loneShortMonths := ["Jän", "Feb", "Mär", "Apr", "Mai", "Jun", "Jul", "Aug", "Sep", "Okt",
      "Nov", "Dez"] }

/-- German in a region. -/
def ofGerman : Option Subtag → CalendarData
  | some "at" | some "it" => { german with names := austrianNames }
  | _ => german

end CalendarData

end IcuMessage
