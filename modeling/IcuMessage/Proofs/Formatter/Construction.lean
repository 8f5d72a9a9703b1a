import IcuMessage.Formatter.Basic
import IcuMessage.Proofs.Message.Soundness
import IcuMessage.Proofs.Plural.Selection

/-!
# Building formatters

A formatter is built of a message if and only if the message is sound, and then keeps
each style of the message once.  Otherwise building fails on account of the first node
that is not sound.  A pattern is parsed first, and then taken as the message that it
stands for.  Locales, providers and rules for tags have no say in this.

The main statement is `building_accepts_sound_messages`.
-/

namespace IcuMessage

namespace Formatter

variable {locales : List String} {sheet : StyleSheet} {settings : FormatterSettings}

/-- Once the locale is settled, the source and the styles decide. -/
theorem outcome_create
    {locale : LocaleTag}
    (settled : (settings.provider.negotiate locales).outcome = .ok locale)
    (source : Source) :
    (create source locales sheet settings).outcome =
      (do
        let message ← source.message settings.ignoreTags
        let styles ← message.validate sheet {}
        .ok
          { pattern := source.patternText
            message := message
            locale := locale
            provider := settings.provider
            sheet := sheet
            styles := styles
            tags := settings.tags }) := by
  simp only [create, Traced.outcome_bind, Traced.outcome_liftM, Traced.outcome_report,
    Traced.outcome_pure, ok_bind, settled]

/-- A formatter is built exactly if its source is a message that validates, and it keeps
the styles of the validation. -/
theorem map_styles_outcome_create (source : Source) :
    (create source locales sheet settings).outcome.map styles =
      (do
        let message ← source.message settings.ignoreTags
        message.validate sheet {}) := by
  rcases settings.provider.exists_outcome_negotiate locales with
    ⟨locale, settled⟩
  rw [outcome_create settled]
  cases source.message settings.ignoreTags with
  | error error => rfl
  | ok message =>
      simp only [ok_bind]
      cases message.validate sheet {} <;> rfl

/-- A formatter is built on a tree exactly if the tree validates. -/
theorem outcome_create_tree_eq_ok_iff (message : Message) :
    (∃ formatter, (create (.tree message) locales sheet settings).outcome = .ok formatter) ↔
      ∃ styles, message.validate sheet {} = .ok styles := by
  have kept : (create (.tree message) locales sheet settings).outcome.map styles =
      message.validate sheet {} :=
    map_styles_outcome_create (.tree message)
  rw [← kept]
  simp only [map_eq_ok_iff]
  constructor
  · rintro ⟨formatter, created⟩
    exact ⟨_, formatter, created, rfl⟩
  · rintro ⟨_, formatter, created, _⟩
    exact ⟨formatter, created⟩

/-- A formatter is built on a pattern as on the tree that it parses to, and quotes the
pattern. -/
theorem outcome_create_pattern (text : String) :
    (create (.pattern text) locales sheet settings).outcome =
      match parse settings.ignoreTags text with
      | .error error => .error (.invalidPattern error)
      | .ok message =>
          (create (.tree message) locales sheet settings).outcome.map fun formatter =>
            { formatter with pattern := text } := by
  rcases settings.provider.exists_outcome_negotiate locales with
    ⟨locale, settled⟩
  rw [outcome_create settled]
  simp only [Source.message]
  cases parse settings.ignoreTags text with
  | error error => rfl
  | ok message =>
      simp only [outcome_create settled, Source.message, ok_bind]
      cases message.validate sheet {} <;> rfl

end Formatter

/-- A formatter is built of the messages that are sound, at every depth; any other
message is refused on account of the first node on the walk that is not.  What is built
keeps each style of the message once, numbers by their style and dates and times by
their category and style.  None of this depends on locales, provider or tags, and a
pattern that is parsed fares as its message does. -/
theorem building_accepts_sound_messages (sheet : StyleSheet) :
    (∀ (message : Message) (locales : List String) (settings : FormatterSettings),
      ((∃ formatter,
          (Formatter.create (.tree message) locales sheet settings).outcome = .ok formatter) ↔
        message.Sound sheet) ∧
      (∀ error,
        (Formatter.create (.tree message) locales sheet settings).outcome = .error error ↔
          FirstOffence sheet message.walk error) ∧
      ∀ formatter,
        (Formatter.create (.tree message) locales sheet settings).outcome = .ok formatter →
          formatter.styles.Collects fun category style =>
            ∃ name, message.Contains (.formatted category name style)) ∧
    (∀ (source : Source) (locales others : List String) (settings : FormatterSettings)
        (provider : Provider) (tags : TagRules),
      (Formatter.create source others sheet
          { settings with provider := provider, tags := tags }).outcome.map Formatter.styles =
        (Formatter.create source locales sheet settings).outcome.map Formatter.styles) ∧
    ∀ (text : String) (locales : List String) (settings : FormatterSettings),
      (Formatter.create (.pattern text) locales sheet settings).outcome =
        match parse settings.ignoreTags text with
        | .error error => .error (.invalidPattern error)
        | .ok message =>
            (Formatter.create (.tree message) locales sheet settings).outcome.map
              fun formatter => { formatter with pattern := text } := by
  have faithful := StyleMemo.faithful_empty sheet
  refine ⟨fun message locales settings => ?_, ?_, ?_⟩
  · have kept : (Formatter.create (.tree message) locales sheet settings).outcome.map
          Formatter.styles = message.validate sheet {} :=
      Formatter.map_styles_outcome_create (.tree message)
    refine ⟨?_, fun error => ?_, fun formatter created => ?_⟩
    · rw [← Message.validate_eq_ok_iff faithful]
      exact Formatter.outcome_create_tree_eq_ok_iff message
    · rw [← Message.validate_eq_error_iff faithful, ← kept, map_eq_error_iff]
    · rw [created] at kept
      exact Message.collects_of_validate kept.symm
  · intro source locales others settings provider tags
    rw [Formatter.map_styles_outcome_create, Formatter.map_styles_outcome_create]
  · intro text locales settings
    exact Formatter.outcome_create_pattern text

/-- One style name for a date, twice, and for a time, and a number without a style. -/
def sharedStyleTree : Message :=
  [.formatted .date "when" (some (.named "full")),
    .tag "b" [.formatted .time "when" (some (.named "full"))],
    .plural "n" .cardinal 0
      [(.other, [.formatted .number "n" none, .formatted .date "n" (some (.named "full"))])]]

/-- The styles of `sharedStyleTree` are kept once for dates, once for times and once for
numbers. -/
theorem building_accepts_sound_messages_sharedStyleTree :
    ∃ formatter,
      (Formatter.create (.tree sharedStyleTree) ["fr"] {} {}).outcome = .ok formatter ∧
        formatter.styles.size = 3 ∧
        formatter.styles.Collects fun category style =>
          ∃ name, sharedStyleTree.Contains (.formatted category name style) := by
  obtain ⟨formatter, created, size⟩ :
      ∃ formatter,
        (Formatter.create (.tree sharedStyleTree) ["fr"] {} {}).outcome = .ok formatter ∧
          formatter.styles.size = 3 :=
    ⟨_, rfl, rfl⟩
  have accepted := (building_accepts_sound_messages {}).1 sharedStyleTree ["fr"] {}
  exact ⟨formatter, created, size, accepted.2.2 formatter created⟩

end IcuMessage
