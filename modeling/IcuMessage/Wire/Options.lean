import IcuMessage.Style.Options
import IcuMessage.Wire.Json

/-!
# Option sets as JSON

An option set is an object.  On reading, an option that is missing or `null`
is left open and other entries are ignored; on writing, every option has an
entry.  The word of an option may also be read from the key of an object whose
only entry is `null`.

A style sheet is an object with an object of option sets for each category, or
an array of these objects; a category may be missing, in an array at the end.
-/

namespace IcuMessage

namespace NumberStyle

/-- The word for a style. -/
def word : NumberStyle → String
  | .decimal => "decimal"
  | .percent => "percent"
  | .currency => "currency"

/-- The style that a word stands for. -/
def ofWord? (word : String) : Option NumberStyle :=
  [decimal, percent, currency].find? fun style => style.word == word

@[simp]
theorem ofWord?_word (style : NumberStyle) : ofWord? style.word = some style := by
  cases style <;> decide

end NumberStyle

namespace SignDisplay

/-- The word for a sign display. -/
def word : SignDisplay → String
  | .auto => "auto"
  | .always => "always"
  | .never => "never"
  | .exceptZero => "exceptZero"

/-- The sign display that a word stands for. -/
def ofWord? (word : String) : Option SignDisplay :=
  [auto, always, never, exceptZero].find? fun display => display.word == word

@[simp]
theorem ofWord?_word (display : SignDisplay) : ofWord? display.word = some display := by
  cases display <;> decide

end SignDisplay

namespace FieldWidth

/-- The word for a width. -/
def word : FieldWidth → String
  | .numeric => "numeric"
  | .twoDigit => "2-digit"
  | .short => "short"
  | .long => "long"
  | .narrow => "narrow"

/-- The width that a word stands for. -/
def ofWord? (word : String) : Option FieldWidth :=
  [numeric, twoDigit, short, long, narrow].find? fun width => width.word == word

@[simp]
theorem ofWord?_word (width : FieldWidth) : ofWord? width.word = some width := by
  cases width <;> decide

end FieldWidth

namespace Json

/-- The number of digits that a value denotes, at most 255. -/
def digitCount? : Json → Option UInt8
  | .integer value =>
      if 0 ≤ value ∧ value ≤ 255 then some (UInt8.ofNat value.toNat) else none
  | _ => none

/-- Read the word of a value. -/
def word? {α : Type} (ofWord? : String → Option α) : Json → Option α
  | .text word => ofWord? word
  | .object [(word, .null)] => ofWord? word
  | _ => none

/-- Read an entry that may be missing or `null`. -/
def option? {α : Type} (read? : Json → Option α)
    (key : String) (entries : List (String × Json)) : Option (Option α) :=
  entryOr none (nullable read?) key entries

end Json

namespace NumberOptions

/-- The option set that a value denotes. -/
def ofJson? : Json → Option NumberOptions
  | .object entries => do
      let style ← Json.option? (Json.word? NumberStyle.ofWord?) "style" entries
      let currency ← Json.option? Json.text? "currency" entries
      let integerDigits ← Json.option? Json.digitCount? "minimumIntegerDigits" entries
      let leastFraction ← Json.option? Json.digitCount? "minimumFractionDigits" entries
      let greatestFraction ← Json.option? Json.digitCount? "maximumFractionDigits" entries
      let useGrouping ← Json.option? Json.boolean? "useGrouping" entries
      let signDisplay ← Json.option? (Json.word? SignDisplay.ofWord?) "signDisplay" entries
      some ⟨style, currency, integerDigits, leastFraction, greatestFraction, useGrouping,
        signDisplay⟩
  | _ => none

/-- The entries for an option set. -/
def toEntries (options : NumberOptions) : List (String × Json) :=
  [("style", .ofOption (fun style => .text style.word) options.style),
    ("currency", .ofOption .text options.currency),
    ("minimumIntegerDigits",
      .ofOption (fun digits => .integer digits.toNat) options.minimumIntegerDigits),
    ("minimumFractionDigits",
      .ofOption (fun digits => .integer digits.toNat) options.minimumFractionDigits),
    ("maximumFractionDigits",
      .ofOption (fun digits => .integer digits.toNat) options.maximumFractionDigits),
    ("useGrouping", .ofOption .boolean options.useGrouping),
    ("signDisplay", .ofOption (fun display => .text display.word) options.signDisplay)]

/-- The value for an option set. -/
def toJson (options : NumberOptions) : Json :=
  .object options.toEntries

end NumberOptions

namespace DateTimeOptions

/-- The fields in the order of the option set, with the keys of their entries. -/
def fields (options : DateTimeOptions) : List (String × Option FieldWidth) :=
  [("weekday", options.weekday), ("era", options.era), ("year", options.year),
    ("month", options.month), ("day", options.day), ("hour", options.hour),
    ("minute", options.minute), ("second", options.second),
    ("timeZoneName", options.timeZoneName)]

/-- The option set that a value denotes. -/
def ofJson? : Json → Option DateTimeOptions
  | .object entries => do
      let width? := Json.option? (Json.word? FieldWidth.ofWord?)
      let weekday ← width? "weekday" entries
      let era ← width? "era" entries
      let year ← width? "year" entries
      let month ← width? "month" entries
      let day ← width? "day" entries
      let hour ← width? "hour" entries
      let minute ← width? "minute" entries
      let second ← width? "second" entries
      let timeZoneName ← width? "timeZoneName" entries
      let hour12 ← Json.option? Json.boolean? "hour12" entries
      some ⟨weekday, era, year, month, day, hour, minute, second, timeZoneName, hour12⟩
  | _ => none

/-- The entries for an option set. -/
def toEntries (options : DateTimeOptions) : List (String × Json) :=
  options.fields.map (fun field =>
    (field.1, .ofOption (fun width => .text width.word) field.2)) ++
    [("hour12", .ofOption .boolean options.hour12)]

/-- The value for an option set. -/
def toJson (options : DateTimeOptions) : Json :=
  .object options.toEntries

end DateTimeOptions

namespace StyleSheet

/-- A table of option sets for the entries of an object. -/
def tableOfEntries? {α : Type} (read? : Json → Option α) (table : List (String × α)) :
    List (String × Json) → Option (List (String × α))
  | [] => some table
  | (name, value) :: rest => do
      let options ← read? value
      tableOfEntries? read? (Table.insert name options table) rest

/-- A table of option sets that a value denotes. -/
def tableOfJson? {α : Type} (read? : Json → Option α) : Json → Option (List (String × α))
  | .object entries => tableOfEntries? read? [] entries
  | _ => none

/-- The style sheet for the entries of an object. -/
def ofEntries? (entries : List (String × Json)) : Option StyleSheet := do
  let number ← Json.entryOr [] (tableOfJson? NumberOptions.ofJson?) "number" entries
  let date ← Json.entryOr [] (tableOfJson? DateTimeOptions.ofJson?) "date" entries
  let time ← Json.entryOr [] (tableOfJson? DateTimeOptions.ofJson?) "time" entries
  some ⟨number, date, time⟩

/-- The style sheet that a value denotes. -/
def ofJson? : Json → Option StyleSheet
  | .object entries => ofEntries? entries
  | .array tables =>
      if tables.length ≤ 3 then ofEntries? (["number", "date", "time"].zip tables) else none
  | _ => none

/-- The value for a style sheet. -/
def toJson (sheet : StyleSheet) : Json :=
  .object
    [("number", .object (sheet.number.map fun style => (style.1, style.2.toJson))),
      ("date", .object (sheet.date.map fun style => (style.1, style.2.toJson))),
      ("time", .object (sheet.time.map fun style => (style.1, style.2.toJson)))]

end StyleSheet

end IcuMessage
