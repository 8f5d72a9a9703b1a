import IcuMessage.Style.DateTimeSkeleton
import IcuMessage.Style.NumberSkeleton

/-!
# Resolution of styles

A style resolves to an option set.  A name is looked up in the style sheet of
the caller, under the category of the placeholder, and then among the presets;
a skeleton is read; and a placeholder without a style has the default of its
category.
-/

namespace IcuMessage

/-- The number styles that every message can use. -/
def numberPresets : List (String × NumberOptions) :=
  [("integer", { maximumFractionDigits := some 0 }),
    ("currency", { style := some .currency }),
    ("percent", { style := some .percent })]

/-- The date styles that every message can use. -/
def datePresets : List (String × DateTimeOptions) :=
  [("short", { DateTimeOptions.numericDate with year := some .twoDigit }),
    ("medium", { DateTimeOptions.numericDate with month := some .short }),
    ("long", { DateTimeOptions.numericDate with month := some .long }),
    ("full", { DateTimeOptions.numericDate with weekday := some .long, month := some .long })]

/-- An hour and a minute. -/
def shortTime : DateTimeOptions where
  hour := some .numeric
  minute := some .twoDigit

/-- An hour, a minute and a second. -/
def mediumTime : DateTimeOptions :=
  { shortTime with second := some .twoDigit }

/-- An hour, a minute, a second and the name of the time zone. -/
def longTime : DateTimeOptions :=
  { mediumTime with timeZoneName := some .short }

/-- The time styles that every message can use. -/
def timePresets : List (String × DateTimeOptions) :=
  [("short", shortTime), ("medium", mediumTime), ("long", longTime), ("full", longTime)]

namespace StyleSheet

/-- The option set of a number style. -/
def resolveNumber (sheet : StyleSheet) :
    Option Style → Except Failure NumberOptions
  | none => .ok {}
  | some (.skeleton text) => NumberSkeleton.read text
  | some (.named name) =>
      match (sheet.number.lookup name).or (numberPresets.lookup name) with
      | some options => .ok options
      | none => .error (.unknownStyle .number name)

/-- The option set of a time style. -/
def resolveTime (sheet : StyleSheet) :
    Option Style → Except Failure DateTimeOptions
  | none => .ok mediumTime
  | some (.skeleton text) => DateTimeSkeleton.read text
  | some (.named name) =>
      match (sheet.time.lookup name).or (timePresets.lookup name) with
      | some options => .ok options
      | none => .error (.unknownStyle .time name)

/-- The option set of a date style. -/
def resolveDate (sheet : StyleSheet) :
    Option Style → Except Failure DateTimeOptions
  | none => .ok DateTimeOptions.numericDate
  | some (.skeleton text) => DateTimeSkeleton.read text
  | some (.named name) =>
      match (sheet.date.lookup name).or (datePresets.lookup name) with
      | some options => .ok options
      | none => .error (.unknownStyle .date name)

/-- The option set of a style that is not a number style: a time style in the
category of times, and a date style in any other. -/
def resolveDateTime (sheet : StyleSheet) (category : Category) (style : Option Style) :
    Except Failure DateTimeOptions :=
  match category with
  | .time => sheet.resolveTime style
  | .date | .number => sheet.resolveDate style

end StyleSheet

end IcuMessage
