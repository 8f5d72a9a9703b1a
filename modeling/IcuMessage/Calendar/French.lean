import IcuMessage.Calendar.Data

/-!
# French dates and times

The day stands first, and the clock has twenty-four hours in most regions.
-/

namespace IcuMessage

namespace CalendarData

/-- French names. -/
def frenchNames : CalendarNames where
  months := ["janvier", "février", "mars", "avril", "mai", "juin", "juillet", "août",
    "septembre", "octobre", "novembre", "décembre"]
  shortMonths := ["janv.", "févr.", "mars", "avr.", "mai", "juin", "juil.", "août", "sept.",
    "oct.", "nov.", "déc."]
  loneShortMonths := ["janv.", "févr.", "mars", "avr.", "mai", "juin", "juil.", "août",
    "sept.", "oct.", "nov.", "déc."]
  weekdays := ["lundi", "mardi", "mercredi", "jeudi", "vendredi", "samedi", "dimanche"]
  shortWeekdays := ["lun.", "mar.", "mer.", "jeu.", "ven.", "sam.", "dim."]
  loneShortWeekdays := ["lun.", "mar.", "mer.", "jeu.", "ven.", "sam.", "dim."]
  earlierEra := "av. J.-C."
  laterEra := "ap. J.-C."

/-- French. -/
def french : CalendarData where
  names := frenchNames
  wholeDate
    | .long => "yMMMMd"
    | .medium => "yMMMd"
    | .short => "yMMdd"
  clock := .twentyFour
  glue
    | .long => " à "
    | .medium => ", "
    | .short => " "
  formats := [
    ("Gy", "y G"), ("GyM", "MM/y G"), ("GyMd", "dd/MM/y G"), ("GyMEd", "E dd/MM/y G"),
    ("GyMMM", "MMM y G"), ("GyMMMd", "d MMM y G"), ("GyMMMEd", "E d MMM y G"), ("y", "y"),
    ("yM", "MM/y"), ("yMd", "dd/MM/y"), ("yMEd", "E dd/MM/y"), ("yMMM", "MMM y"),
    ("yMMMd", "d MMM y"), ("yMMMEd", "E d MMM y"), ("yMMMM", "MMMM y"), ("M", "L"),
    ("Md", "dd/MM"), ("MEd", "E dd/MM"), ("MMM", "LLL"), ("MMMd", "d MMM"),
    ("MMMEd", "E d MMM"), ("MMMMd", "d MMMM"), ("d", "d"), ("Ed", "E d"), ("E", "E"),
    ("Eh", "E h\u202fa"), ("Ehm", "E h:mm\u202fa"), ("Ehms", "E h:mm:ss\u202fa"),
    ("EHm", "E HH:mm"), ("EHms", "E HH:mm:ss"), ("h", "h\u202fa"), ("hm", "h:mm\u202fa"),
    ("hms", "h:mm:ss\u202fa"), ("H", "HH"), ("Hm", "HH:mm"), ("Hms", "HH:mm:ss")]

/-- French in Canada. -/
def canadianFrench : CalendarData :=
  { french.adopting
      [("GyM", "y-MM G"), ("GyMd", "y-MM-dd G"), ("GyMEd", "E y-MM-dd G"), ("yM", "y-MM"),
        ("yMd", "y-MM-dd"), ("yMEd", "E y-MM-dd"), ("yMM", "y-MM"), ("Md", "MM-dd"),
        ("MEd", "E MM-dd"), ("MMd", "MM-dd"), ("MMdd", "MM-dd"),
        ("EHm", "E HH 'h' mm"), ("EHms", "E HH 'h' mm 'min' ss 's'"), ("h", "h 'h' a"),
        ("hm", "h 'h' mm\u202fa"), ("hms", "h 'h' mm 'min' ss 's' a"), ("Hm", "HH 'h' mm"),
        ("Hms", "HH 'h' mm 'min' ss 's'")] with
    names := { frenchNames with
      shortMonths := ["janv.", "févr.", "mars", "avr.", "mai", "juin", "juill.", "août",
        "sept.", "oct.", "nov.", "déc."]
      beforeNoon := "a.m."
      afterNoon := "p.m." } }

/-- French in Switzerland. -/
def swissFrench : CalendarData :=
  (french.withShortDate "yyMMdd").adopting
    [("yM", "MM.y"), ("yMd", "dd.MM.y"), ("yMEd", "E, dd.MM.y"), ("Md", "dd.MM."),
      ("MEd", "E, dd.MM."), ("MMdd", "dd.MM")]

/-- French in a region. -/
def ofFrench : Option Subtag → CalendarData
  | some "be" => french.withShortDate "yyMMd"
  | some "ca" => canadianFrench
  | some "ch" => swissFrench
  | some "cm" =>
      (french.withDayHalves "mat." "soir").adopting [("h", "h"), ("hm", "h:mm"), ("hms", "h:mm:ss")]
  | some "dj" | some "dz" | some "mr" | some "sy" | some "td" | some "tn" | some "vu" =>
      french.onClock .twelve
  | some "ma" =>
      { french with
        names := { frenchNames with
          shortMonths := ["jan.", "fév.", "mar.", "avr.", "mai", "jui.", "juil.", "août",
            "sept.", "oct.", "nov.", "déc."]
          loneShortMonths := ["jan.", "fév.", "mar.", "avr.", "mai", "jui.", "juil.", "août",
            "sept.", "oct.", "nov.", "déc."] } }
  | _ => french

end CalendarData

end IcuMessage
