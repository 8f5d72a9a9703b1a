import IcuMessage.Calendar.Data

/-!
# Japanese dates and times

The year stands first, then the month and the day; an era stands before its
year.  The names of months are their numbers.
-/

namespace IcuMessage

namespace CalendarData

/-- Japanese names. -/
def japaneseNames : CalendarNames where
  months := ["1月", "2月", "3月", "4月", "5月", "6月", "7月", "8月", "9月", "10月", "11月", "12月"]
  shortMonths :=
    ["1月", "2月", "3月", "4月", "5月", "6月", "7月", "8月", "9月", "10月", "11月", "12月"]
  loneShortMonths :=
    ["1月", "2月", "3月", "4月", "5月", "6月", "7月", "8月", "9月", "10月", "11月", "12月"]
  weekdays := ["月曜日", "火曜日", "水曜日", "木曜日", "金曜日", "土曜日", "日曜日"]
  shortWeekdays := ["月", "火", "水", "木", "金", "土", "日"]
  loneShortWeekdays := ["月", "火", "水", "木", "金", "土", "日"]
  beforeNoon := "午前"
  afterNoon := "午後"
  earlierEra := "紀元前"
  laterEra := "西暦"

/-- Japanese. -/
def japanese : CalendarData where
  names := japaneseNames
  wholeDate
    | .long => "yMMMd"
    | .medium | .short => "yMMdd"
  clock := .twentyFour
  glue := fun _ => " "
  formats := [
    ("Gy", "Gy年"), ("GyM", "Gy/M"), ("GyMd", "Gy/M/d"), ("GyMEd", "Gy/M/d(E)"),
    ("GyMMM", "Gy年M月"), ("GyMMMd", "Gy年M月d日"), ("GyMMMEd", "Gy年M月d日(E)"),
    ("GyMMMEEEEd", "Gy年M月d日EEEE"), ("y", "y年"), ("yM", "y/M"), ("yMd", "y/M/d"),
    ("yMEd", "y/M/d(E)"), ("yMEEEEd", "y/M/dEEEE"), ("yMM", "y/MM"), ("yMMM", "y年M月"),
    ("yMMMd", "y年M月d日"), ("yMMMEd", "y年M月d日(E)"), ("yMMMEEEEd", "y年M月d日EEEE"),
    ("yMMMM", "y年M月"), ("M", "M月"), ("Md", "M/d"), ("MEd", "M/d(E)"), ("MEEEEd", "M/dEEEE"),
    ("MMM", "M月"), ("MMMd", "M月d日"), ("MMMEd", "M月d日(E)"), ("MMMEEEEd", "M月d日EEEE"),
    ("MMMMd", "M月d日"), ("d", "d日"), ("Ed", "d日(E)"), ("EEEEd", "d日EEEE"), ("E", "ccc"),
    ("EHm", "H:mm (E)"), ("EHms", "H:mm:ss (E)"), ("h", "aK時"), ("hm", "aK:mm"),
    ("hms", "aK:mm:ss"), ("H", "H時"), ("Hm", "H:mm"), ("Hms", "H:mm:ss")]

end CalendarData

end IcuMessage
