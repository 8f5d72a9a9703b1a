import IcuMessage.Provider
import IcuMessage.Proofs.Outcome
import Mathlib.Control.Monad.Basic

/-!
# The name of the time zone

The name of the time zone takes no part in the choice of fields, of the length of the
pattern or of the hours that are counted, so the text of the fields is the same with and
without it, and it follows that text.  But an option set that asks for no field is replaced
as a whole by the default of its category, and what it says of the time zone is lost with
it.

The main statement is `zone_name_follows_fields`: the name follows the text exactly if some
field is asked for.
-/

namespace IcuMessage

namespace DateTimeOptions

/-- The options with the name of the time zone in a width. -/
def withZoneName (options : DateTimeOptions) (width : FieldWidth) : DateTimeOptions :=
  { options with timeZoneName := some width }

/-- Some field of a date or of a time is asked for. -/
def AsksForField (options : DateTimeOptions) : Prop :=
  options.asksForDate = true ∨ options.asksForTime = true

variable {options : DateTimeOptions} (category : Category) (width : FieldWidth)

/-- The name of the time zone is no field. -/
theorem asksForField_withZoneName :
    (options.withZoneName width).AsksForField ↔ options.AsksForField :=
  Iff.rfl

theorem orDefault_of_asksForField (asks : options.AsksForField) :
    options.orDefault category = options :=
  if_pos (by simpa [AsksForField] using asks)

/-- Options that ask for no field come to the same, whatever else they say. -/
theorem orDefault_of_not_asksForField (silent : ¬ options.AsksForField) :
    options.orDefault category = orDefault category {} :=
  if_neg (by simpa [AsksForField] using silent)

end DateTimeOptions

/-- The text of the fields that the options ask for, for a point in time, without the name
of the time zone. -/
def fieldsText (formatter : FieldFormatter) (tag : LocaleTag) (category : Category)
    (millis : Int64) (options : DateTimeOptions) : Except Failure String :=
  match CivilDateTime.ofEpochMillis? millis with
  | none => .error (.primitive category "timestamp was not in range")
  | some time =>
      (formatter tag (options.hourCycle? <|> tag.hourCycle?) options.fieldSet time).mapError
        (.primitive category)

section Rendering

variable (formatter : FieldFormatter) (tag : LocaleTag) (category : Category) (millis : Int64)
  {options : DateTimeOptions} (width : FieldWidth)

/-- The fields do not depend on the name of the time zone. -/
theorem fieldsText_withZoneName :
    fieldsText formatter tag category millis (options.withZoneName width) =
      fieldsText formatter tag category millis options := rfl

/-- The text of the fields comes first, and fails if anything does. -/
theorem renderInstant_eq_map :
    renderInstant formatter tag category millis options =
      (fieldsText formatter tag category millis (options.orDefault category)).map fun text =>
        if (options.orDefault category).timeZoneName.isSome then text ++ " UTC" else text := by
  unfold renderInstant fieldsText
  cases CivilDateTime.ofEpochMillis? millis with
  | none => rfl
  | some time =>
      simp only
      generalize options.orDefault category = chosen
      cases formatter tag (chosen.hourCycle? <|> tag.hourCycle?) chosen.fieldSet time <;> rfl

/-- Without any field, the default is rendered, with or without the name of the zone. -/
theorem renderInstant_of_not_asksForField (silent : ¬ options.AsksForField) :
    renderInstant formatter tag category millis options =
      renderInstant formatter tag category millis {} := by
  rw [renderInstant_eq_map, renderInstant_eq_map,
    DateTimeOptions.orDefault_of_not_asksForField category silent]

/-- Behind some field, the name of the zone is written. -/
theorem renderInstant_withZoneName
    (asks : options.AsksForField)
    (unset : options.timeZoneName = none) :
    renderInstant formatter tag category millis (options.withZoneName width) =
      (renderInstant formatter tag category millis options).map (· ++ " UTC") := by
  have asksNamed := (DateTimeOptions.asksForField_withZoneName width).mpr asks
  rw [renderInstant_eq_map, renderInstant_eq_map,
    DateTimeOptions.orDefault_of_asksForField category asks,
    DateTimeOptions.orDefault_of_asksForField category asksNamed, fieldsText_withZoneName, unset]
  cases fieldsText formatter tag category millis options <;> rfl

end Rendering

/-- Text is not the same with more text behind it. -/
theorem append_zoneName_ne (text : String) : text ++ " UTC" ≠ text := by
  intro same
  have lengths := congrArg String.length same
  rw [String.length_append] at lengths
  exact absurd lengths (by simp)

/-- The name of the time zone changes nothing about when rendering fails, for any formatter
of field sets, locale, category and point in time.  It follows the text of options that did
not ask for it exactly if they ask for some field of a date or time, unless rendering fails;
otherwise it is not written. -/
theorem zone_name_follows_fields
    {options : DateTimeOptions}
    (unset : options.timeZoneName = none)
    (formatter : FieldFormatter)
    (tag : LocaleTag)
    (category : Category)
    (millis : Int64)
    (width : FieldWidth) :
    let plain := renderInstant formatter tag category millis options
    let named := renderInstant formatter tag category millis (options.withZoneName width)
    (∀ error, named = .error error ↔ plain = .error error) ∧
      (named = plain.map (· ++ " UTC") ↔
        options.AsksForField ∨ ∃ error, plain = .error error) ∧
      (¬ options.AsksForField → named = plain) := by
  intro plain named
  by_cases asks : options.AsksForField
  · have follows : named = plain.map (· ++ " UTC") :=
      renderInstant_withZoneName formatter tag category millis width asks unset
    refine ⟨fun error => ?_, ?_, fun silent => absurd asks silent⟩
    · rw [follows, map_eq_error_iff]
    · exact ⟨fun _ => Or.inl asks, fun _ => follows⟩
  · have silentNamed := mt (DateTimeOptions.asksForField_withZoneName width).mp asks
    have same : named = plain :=
      (renderInstant_of_not_asksForField formatter tag category millis silentNamed).trans
        (renderInstant_of_not_asksForField formatter tag category millis asks).symm
    refine ⟨fun error => by rw [same], ?_, fun _ => same⟩
    rw [same]
    cases result : plain with
    | error error => exact ⟨fun _ => Or.inr ⟨error, rfl⟩, fun _ => rfl⟩
    | ok text =>
        constructor
        · intro longer
          exact absurd (Except.ok.inj longer).symm (append_zoneName_ne text)
        · rintro (asked | ⟨error, failed⟩)
          · exact absurd asked asks
          · cases failed

/-- A weekday, an hour and a minute on a clock with twenty-four hours. -/
def departureTime : DateTimeOptions where
  weekday := some .long
  hour := some .numeric
  minute := some .twoDigit
  hour12 := some false

/-- The zone is named behind `departureTime`, which asks for fields. -/
theorem zone_name_follows_fields_departureTime :
    departureTime.timeZoneName = none ∧ departureTime.AsksForField ∧
      renderInstant localeFieldFormatter .english .time 47100000 departureTime =
        .ok "Thursday at 13:05" ∧
      renderInstant localeFieldFormatter .english .time 47100000
          (departureTime.withZoneName .long) =
        .ok "Thursday at 13:05 UTC" := by
  have asks : departureTime.AsksForField := Or.inl rfl
  have plain : renderInstant localeFieldFormatter .english .time 47100000 departureTime =
      .ok "Thursday at 13:05" := by
    decide +kernel
  have follows := (@zone_name_follows_fields departureTime rfl localeFieldFormatter
    .english .time 47100000 .long).2.1.mpr (Or.inl asks)
  rw [plain] at follows
  exact ⟨rfl, asks, plain, follows⟩

/-- The name of the zone alone is not written: it asks for no field, and the default time
has none. -/
theorem zone_name_alone_is_lost :
    let options : DateTimeOptions := {}
    options.timeZoneName = none ∧
      Provider.locales.formatTime .english 0 options = .ok "12:00:00\u202FAM" ∧
      Provider.locales.formatTime .english 0 (options.withZoneName .short) =
        .ok "12:00:00\u202FAM" ∧
      Provider.locales.formatTime .english 0 (options.withZoneName .short) ≠
        .ok ("12:00:00\u202FAM" ++ " UTC") := by
  intro options
  have plain : Provider.locales.formatTime .english 0 options = .ok "12:00:00\u202FAM" := by
    decide +kernel
  have named : Provider.locales.formatTime .english 0 (options.withZoneName .short) =
      .ok "12:00:00\u202FAM" := by
    decide +kernel
  refine ⟨rfl, plain, named, ?_⟩
  rw [named]
  exact fun same => append_zoneName_ne "12:00:00\u202FAM" (Except.ok.inj same).symm

end IcuMessage
