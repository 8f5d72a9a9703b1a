import IcuMessage.Calendar.Data

/-!
# English dates and times

In the United States a month stands before its day, and the clock has twelve
hours.  Most other regions put the day first; they differ in the clock and in
the dates that are written in digits.
-/

namespace IcuMessage

namespace CalendarData

/-- English names. -/
def englishNames : CalendarNames where
  months := ["January", "February", "March", "April", "May", "June", "July", "August",
    "September", "October", "November", "December"]
  shortMonths := ["Jan", "Feb", "Mar", "Apr", "May", "Jun", "Jul", "Aug", "Sep", "Oct", "Nov",
    "Dec"]
  loneShortMonths := ["Jan", "Feb", "Mar", "Apr", "May", "Jun", "Jul", "Aug", "Sep", "Oct",
    "Nov", "Dec"]
  weekdays := ["Monday", "Tuesday", "Wednesday", "Thursday", "Friday", "Saturday", "Sunday"]
  shortWeekdays := ["Mon", "Tue", "Wed", "Thu", "Fri", "Sat", "Sun"]
  loneShortWeekdays := ["Mon", "Tue", "Wed", "Thu", "Fri", "Sat", "Sun"]

/-- English with the month first. -/
def english : CalendarData where
  names := englishNames
  wholeDate
    | .long => "yMMMMd"
    | .medium => "yMMMd"
    | .short => "yyMd"
  clock := .twelve
  glue
    | .long => " at "
    | .medium | .short => ", "
  formats := [
    ("Gy", "y G"), ("GyM", "M/y G"), ("GyMd", "M/d/y G"), ("GyMEd", "E, M/d/y G"),
    ("GyMMM", "MMM y G"), ("GyMMMd", "MMM d, y G"), ("GyMMMEd", "E, MMM d, y G"), ("y", "y"),
    ("yy", "\u2019yy"), ("yM", "M/y"), ("yMd", "M/d/y"), ("yMEd", "E, M/d/y"),
    ("yMMM", "MMM y"), ("yMMMd", "MMM d, y"), ("yMMMEd", "E, MMM d, y"), ("yMMMM", "MMMM y"),
    ("M", "L"), ("Md", "M/d"), ("MEd", "E, M/d"), ("MMM", "LLL"), ("MMMd", "MMM d"),
    ("MMMEd", "E, MMM d"), ("MMMMd", "MMMM d"), ("d", "d"), ("Ed", "d E"), ("E", "ccc"),
    ("Eh", "E h\u202fa"), ("Ehm", "E h:mm\u202fa"), ("Ehms", "E h:mm:ss\u202fa"),
    ("EHm", "E HH:mm"), ("EHms", "E HH:mm:ss"), ("h", "h\u202fa"), ("hm", "h:mm\u202fa"),
    ("hms", "h:mm:ss\u202fa"), ("H", "HH"), ("Hm", "HH:mm"), ("Hms", "HH:mm:ss")]

/-- Formats with the day first. -/
def dayFirstFormats : List (String × String) :=
  [("GyMd", "dd/MM/y G"), ("GyMEd", "E, dd/MM/y G"), ("GyMMMd", "d MMM y G"),
    ("GyMMMEd", "E, d MMM y G"), ("yM", "MM/y"), ("yMd", "dd/MM/y"), ("yMEd", "E, dd/MM/y"),
    ("yMMMd", "d MMM y"), ("yMMMEd", "E, d MMM y"), ("Md", "dd/MM"), ("MEd", "E, dd/MM"),
    ("MMdd", "dd/MM"), ("MMMd", "d MMM"), ("MMMEd", "E, d MMM"), ("MMMMd", "d MMMM"),
    ("Ed", "E d")]

/-- The names in most regions that put the day first. -/
def dayFirstNames : CalendarNames :=
  { englishNames with
    shortMonths := ["Jan", "Feb", "Mar", "Apr", "May", "Jun", "Jul", "Aug", "Sept", "Oct",
      "Nov", "Dec"]
    loneShortMonths := ["Jan", "Feb", "Mar", "Apr", "May", "Jun", "Jul", "Aug", "Sept", "Oct",
      "Nov", "Dec"]
    beforeNoon := "am"
    afterNoon := "pm" }

/-- English with the day first. -/
def dayFirstEnglish : CalendarData :=
  { (english.adopting dayFirstFormats).withShortDate "yMMdd" with names := dayFirstNames }

/-- The regions that put the day first and have a clock with twelve hours. -/
def dayFirstTwelveHourRegions : List Subtag :=
  ["001", "ag", "bb", "bm", "bs", "cy", "dm", "er", "fj", "fm", "gd", "gh", "gm", "gy", "jm",
    "ki", "kn", "ky", "lc", "lr", "ls", "mo", "mw", "my", "na", "pg", "pw", "sb", "sd", "sl",
    "ss", "sz", "tc", "to", "tt", "vc", "vg", "vu", "ws", "zm"]

/-- The regions that put the day first and have a clock with twenty-four hours. -/
def dayFirstTwentyFourHourRegions : List Subtag :=
  ["150", "ai", "at", "cc", "ck", "cm", "cx", "cz", "de", "dg", "ee", "es", "fk", "fr", "ge",
    "gg", "gi", "gs", "hu", "im", "io", "it", "je", "ke", "lt", "lv", "mg", "ms", "mu", "nf",
    "ng", "nl", "no", "nr", "nu", "pl", "pn", "pt", "ro", "rw", "sc", "sh", "si", "sk", "sx",
    "tk", "tv", "tz", "ua", "ug"]

/-- Formats with two digits of a day beside a month in words. -/
def paddedDayFormats : List (String × String) :=
  [("yMMMd", "dd MMM y"), ("yMMMEd", "E, dd MMM y"), ("MMMd", "dd MMM"),
    ("MMMEd", "E, dd MMM")]

/-- Formats with points in a time of day. -/
def pointedTimeFormats : List (String × String) :=
  [("Ehm", "E h.mm\u202fa"), ("Ehms", "E h.mm.ss\u202fa"), ("EHm", "E HH.mm"),
    ("EHms", "E HH.mm.ss"), ("hm", "h.mm\u202fa"), ("hms", "h.mm.ss\u202fa"),
    ("Hm", "HH.mm"), ("Hms", "HH.mm.ss")]

/-- English in the United Kingdom. -/
def british : CalendarData :=
  (dayFirstEnglish.onClock .twentyFour).adopting
    [("GyMEd", "E, d/M/y G"), ("GyMMMEEEEd", "EEEE, d MMM y G"),
      ("yMMMEEEEd", "EEEE, d MMM y"), ("yMMMMEEEEd", "EEEE, d MMMM y"), ("MEd", "E dd/MM"),
      ("MMMEd", "E d MMM"), ("MMMEEEEd", "EEEE d MMM"), ("MMMMEEEEd", "EEEE d MMMM")]

/-- English in Australia. -/
def australian : CalendarData :=
  { (dayFirstEnglish.withShortDate "yyMd").adopting
      [("GyMMMEEEEd", "EEEE d MMM y G"), ("yMMMEEEEd", "EEEE d MMM y"),
        ("yMMMMEEEEd", "EEEE d MMMM y"), ("Md", "d/M"), ("MEd", "E, d/M"),
        ("MMMEEEEd", "EEEE d MMM"), ("MMMMEEEEd", "EEEE d MMMM")] with
    names := { dayFirstNames with
      shortMonths := ["Jan", "Feb", "Mar", "Apr", "May", "June", "July", "Aug", "Sept", "Oct",
        "Nov", "Dec"] } }

/-- English in Canada. -/
def canadianEnglish : CalendarData :=
  (english.withDayHalves "a.m." "p.m.").adopting
    [("yM", "y-MM"), ("yMd", "y-MM-dd"), ("yMEd", "E, y-MM-dd"), ("Md", "MM-dd"),
      ("MEd", "E, MM-dd"), ("MMdd", "MM-dd"), ("Ed", "E d")]

/-- English in India. -/
def indianEnglish : CalendarData :=
  (dayFirstEnglish.withWholeDates "yMMMMd" "yMMMdd" "yyMMdd").adopting
    [("GyMMMEEEEd", "EEEE, d MMM y G"), ("yMd", "d/M/y"), ("yMEd", "E, d/M/y"),
      ("yMMMEd", "E, d MMM, y"), ("yMMMEEEEd", "EEEE, d MMM y"),
      ("yMMMMEEEEd", "EEEE, d MMMM y"), ("MMMEEEEd", "EEEE, d MMM"),
      ("MMMMEEEEd", "EEEE, d MMMM"), ("Ehm", "E, h:mm\u202fa"), ("Ehms", "E, h:mm:ss\u202fa"),
      ("EHm", "E, HH:mm"), ("EHms", "E, HH:mm:ss")]

/-- English in Ireland. -/
def irish : CalendarData :=
  (dayFirstEnglish.onClock .twentyFour).adopting
    [("yMd", "d/M/y"), ("yMEd", "E, d/M/y"), ("yMMMEd", "E d MMM y"), ("Md", "d/M"),
      ("MEd", "E, d/M")]

/-- English in New Zealand. -/
def newZealand : CalendarData :=
  (dayFirstEnglish.withWholeDates "yMMMMd" "yMMd" "yyMMd").adopting
    [("yMd", "d/MM/y"), ("Md", "d/M")]

/-- English in South Africa. -/
def southAfrican : CalendarData :=
  ((dayFirstEnglish.onClock .twentyFour).withWholeDates "yMMMMdd" "yMMMdd" "yMMdd").adopting
    ([("yMd", "y/MM/dd"), ("yMEd", "E, y/MM/dd"), ("Md", "MM/dd"), ("MEd", "E, MM/dd")] ++
      paddedDayFormats)

/-- English in Zimbabwe. -/
def zimbabwean : CalendarData :=
  ((dayFirstEnglish.onClock .twentyFour).withWholeDates "yMMMMdd" "yMMMdd" "yMd").adopting
    [("yMd", "d/M/y"), ("yMEd", "E, d/M/y"), ("yMMMd", "dd MMM, y"),
      ("yMMMEd", "E, dd MMM, y"), ("Md", "d/M"), ("MEd", "E, d/M"), ("MMMd", "dd MMM"),
      ("MMMEd", "E, dd MMM")]

/-- English in a region. -/
def ofEnglish : Option Subtag → CalendarData
  | none => english
  | some "ae" => { dayFirstEnglish.adopting [("GyMd", "M/d/y G"), ("GyMEd", "E, M/d/y G")] with
      names := englishNames }
  | some "au" => australian
  | some "be" =>
      ((dayFirstEnglish.onClock .twentyFour).withWholeDates "yMMMMd" "yMMMdd" "yyMMdd").adopting
        [("yMd", "d/M/y"), ("yMEd", "E, d/M/y"), ("Md", "d/M"), ("MEd", "E, d/M")]
  | some "bi" => english.onClock .twentyFour
  | some "bw" =>
      ((dayFirstEnglish.onClock .twentyFour).withWholeDates
        "yMMMMdd" "yMMMdd" "yyMMdd").adopting
          ([("GyMMMd", "dd MMM y G"), ("GyMMMEd", "E, dd MMM y G")] ++ paddedDayFormats)
  | some "bz" =>
      ((dayFirstEnglish.onClock .twentyFour).withWholeDates
        "yMMMMdd" "yMMMdd" "yyMMdd").adopting paddedDayFormats
  | some "ca" => canadianEnglish
  | some "ch" =>
      (dayFirstEnglish.onClock .twentyFour).adopting
        [("GyMd", "d.M.y G"), ("yM", "MM.y"), ("yMd", "dd.MM.y"), ("yMEd", "E, dd.MM.y"),
          ("Md", "dd.MM"), ("MEd", "E, dd.MM"), ("MMdd", "dd.MM")]
  | some "dk" | some "id" => (dayFirstEnglish.onClock .twentyFour).adopting pointedTimeFormats
  | some "fi" =>
      (dayFirstEnglish.onClock .twentyFour).adopting
        ([("EHm", "E H.mm"), ("EHms", "E H.mm.ss"), ("Hm", "H.mm"), ("Hms", "H.mm.ss")] ++
          pointedTimeFormats)
  | some "gb" => british
  | some "hk" =>
      (dayFirstEnglish.withShortDate "yMd").adopting [("yMd", "d/M/y"), ("MMMMEd", "E, d MMMM")]
  | some "ie" => irish
  | some "il" =>
      (dayFirstEnglish.onClock .twentyFour).adopting
        [("EHm", "E H:mm"), ("EHms", "E H:mm:ss"), ("H", "H"), ("Hm", "H:mm"),
          ("Hms", "H:mm:ss")]
  | some "in" => indianEnglish
  | some "jp" =>
      ((english.onClock .twentyFour).withShortDate "yMd").adopting
        [("GyMd", "y/MM/dd G"), ("yM", "MM/y"), ("yMd", "y/MM/dd"), ("yMEd", "E, y/MM/dd"),
          ("H", "H"), ("Hm", "H:mm"), ("Hms", "H:mm:ss")]
  | some "mt" =>
      ((dayFirstEnglish.onClock .twentyFour).withWholeDates "yMMMMdd" "yMMMdd" "yMMdd").adopting
        [("yMMMd", "dd MMM y"), ("yMMMEd", "E, dd MMM y"), ("MMMd", "dd MMM")]
  | some "mv" => (dayFirstEnglish.onClock .twentyFour).withWholeDates "yMMMMd" "yMMdd" "yyMd"
  | some "nz" => newZealand
  | some "pk" => dayFirstEnglish.withWholeDates "yMMMMd" "yMMMdd" "yMMdd"
  | some "se" =>
      (dayFirstEnglish.onClock .twentyFour).adopting
        [("yM", "y-MM"), ("yMd", "y-MM-dd"), ("yMEd", "E, y-MM-dd")]
  | some "sg" => dayFirstEnglish.withShortDate "yyMd"
  | some "za" => southAfrican
  | some "zw" => zimbabwean
  | some region =>
      if dayFirstTwelveHourRegions.contains region then dayFirstEnglish
      else if dayFirstTwentyFourHourRegions.contains region then
        dayFirstEnglish.onClock .twentyFour
      else english

end CalendarData

end IcuMessage
