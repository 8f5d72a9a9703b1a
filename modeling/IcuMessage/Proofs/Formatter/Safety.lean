import IcuMessage.Formatter.Basic
import IcuMessage.Proofs.Evaluation.Safety
import IcuMessage.Proofs.Pattern.PoundScope

/-!
# Formatters fail on account of values alone

Whatever can be wrong with a pattern or a message is found when a formatter is
built.  A formatter that was built fails only if a value is missing, is not
what it is needed as, or is refused by the provider.  The one exception is a
number sign outside all plurals, which a tree may have and a pattern may not.

The main statement is `formatting_failure`.
-/

namespace IcuMessage

/-- The provider on the locale data of this library refuses values, and does
not fail otherwise. -/
theorem Provider.failsOnlyPrimitively_locales : Provider.locales.FailsOnlyPrimitively := by
  have instants (formatter : FieldFormatter) (tag : LocaleTag) (category : Category)
      (millis : Int64) (options : DateTimeOptions) (error : Failure)
      (refused : renderInstant formatter tag category millis options = .error error) :
      ∃ category reason, error = .primitive category reason := by
    rw [renderInstant] at refused
    split at refused
    case h_1 =>
      cases refused
      exact ⟨_, _, rfl⟩
    case h_2 time _ =>
      simp only at refused
      split at refused
      case h_1 =>
        cases refused
        exact ⟨_, _, rfl⟩
      case h_2 => cases refused
  refine ⟨?_, ?_, ?_, ?_⟩
  · intro tag value options error refused
    cases refused
  · intro tag millis options error refused
    exact instants localeFieldFormatter tag .date millis options error refused
  · intro tag millis options error refused
    exact instants localeFieldFormatter tag .time millis options error refused
  · intro tag value rule error refused
    simp only [locales, localeCategory] at refused
    split at refused
    case h_1 => cases refused
    case h_2 =>
      cases refused
      exact ⟨_, _, rfl⟩

namespace Formatter

variable
    {source : Source}
    {locales : List String}
    {sheet : StyleSheet}
    {settings : FormatterSettings}
    {formatter : Formatter}

/-- What a formatter that was built consists of. -/
theorem parts_of_create
    (created : (create source locales sheet settings).outcome = .ok formatter) :
    ∃ message locale styles,
      source.message settings.ignoreTags = .ok message ∧
        (settings.provider.negotiate locales).outcome = .ok locale ∧
        message.validate sheet {} = .ok styles ∧
        formatter =
          { pattern := source.patternText
            message := message
            locale := locale
            provider := settings.provider
            sheet := sheet
            styles := styles
            tags := settings.tags } := by
  simp only [create, Traced.outcome_bind, Traced.outcome_liftM, Traced.outcome_report,
    Traced.outcome_pure, ok_bind] at created
  rcases bind_eq_ok_iff.mp created with
    ⟨message, given, created⟩
  rcases bind_eq_ok_iff.mp created with
    ⟨locale, settled, created⟩
  rcases bind_eq_ok_iff.mp created with
    ⟨styles, valid, same⟩
  cases same
  exact ⟨message, locale, styles, given, settled, valid, rfl⟩

/-- A formatter that was built holds the message of its source, which validated. -/
theorem create_spec
    (created : (create source locales sheet settings).outcome = .ok formatter) :
    source.message settings.ignoreTags = .ok formatter.message ∧
      formatter.message.validate sheet {} = .ok formatter.styles ∧
      formatter.provider = settings.provider := by
  rcases parts_of_create created with
    ⟨message, locale, styles, given, _, valid, rfl⟩
  exact ⟨given, valid, rfl⟩

/-- Only a tree has free number signs. -/
theorem source_of_hasFreePound
    {ignoreTags : Bool}
    {message : Message}
    (given : source.message ignoreTags = .ok message)
    (free : message.HasFreePound) :
    source = .tree message := by
  cases source with
  | tree tree =>
      cases given
      rfl
  | pattern text =>
      simp only [Source.message] at given
      split at given
      case h_1 parsed read =>
        cases given
        exact absurd free (not_hasFreePound_of_parse read)
      case h_2 => cases given

/-- The text of a message fails exactly as its parts do. -/
theorem outcome_format_eq_error_iff
    {values : Bindings}
    {error : Failure} :
    (formatter.format values).outcome = .error error ↔
      (formatter.formatToParts values).outcome = .error error := by
  simp only [format, Traced.outcome_bind, Traced.outcome_pure, bind_eq_error_iff]
  simp

end Formatter

/-- A formatter that was built, from whatever source and with whatever settings,
fails only on account of the values that it is given, or for a number sign that
stands outside all plurals of the tree that it was built from. -/
theorem formatting_failure
    {source : Source}
    {locales : List String}
    {sheet : StyleSheet}
    {settings : FormatterSettings}
    {formatter : Formatter}
    {values : Bindings}
    {error : Failure}
    (primitive : settings.provider.FailsOnlyPrimitively)
    (created : (Formatter.create source locales sheet settings).outcome = .ok formatter)
    (failed :
      (formatter.formatToParts values).outcome = .error error ∨
        (formatter.format values).outcome = .error error) :
    error.ConcernsValues ∨
      error = .poundOutsidePlural ∧
        ∃ message, source = .tree message ∧ message.HasFreePound := by
  rcases Formatter.create_spec created with
    ⟨given, valid, provider⟩
  have ready := (Message.ready_of_validate sheet formatter.message _ _ valid).2
  have failed : (formatter.formatToParts values).outcome = .error error :=
    failed.elim id Formatter.outcome_format_eq_error_iff.mp
  rw [Formatter.formatToParts, Message.parts, Message.outcome_partsIn, map_eq_error_iff] at failed
  have primitive : (formatter.environment values).provider.FailsOnlyPrimitively := by
    show formatter.provider.FailsOnlyPrimitively
    rwa [provider]
  rcases Message.gatherIn_failure primitive ready failed with excused | ⟨sign, _, free⟩
  · exact Or.inl excused
  · exact Or.inr ⟨sign, formatter.message, Formatter.source_of_hasFreePound given free, free⟩

/-- A tree whose only number sign stands inside a select and a tag. -/
def freePoundTree : Message :=
  [.select "who"
    [("other", [.tag "b" [.pound], .formatted .number "share" (some (.named "percent"))])]]

/-- The tree is built without complaint, and then fails for its number sign. -/
theorem formatting_failure_freePoundTree :
    Provider.locales.FailsOnlyPrimitively ∧
      ∃ formatter,
        (Formatter.create (.tree freePoundTree) [] {} {}).outcome = .ok formatter ∧
          (formatter.formatToParts [("who", .text "all")]).outcome =
            .error .poundOutsidePlural ∧
          (Failure.poundOutsidePlural.ConcernsValues ∨
            Failure.poundOutsidePlural = .poundOutsidePlural ∧
              ∃ message, Source.tree freePoundTree = .tree message ∧ message.HasFreePound) := by
  have primitive := Provider.failsOnlyPrimitively_locales
  obtain ⟨formatter, created, failed⟩ :
      ∃ formatter,
        (Formatter.create (.tree freePoundTree) [] {} {}).outcome = .ok formatter ∧
          (formatter.formatToParts [("who", .text "all")]).outcome =
            .error .poundOutsidePlural :=
    ⟨_, rfl, rfl⟩
  exact ⟨primitive, formatter, created, failed,
    formatting_failure primitive created (Or.inl failed)⟩

end IcuMessage
