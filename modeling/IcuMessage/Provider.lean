import IcuMessage.Calendar.Rendering
import IcuMessage.Locale.Coverage
import IcuMessage.Number.Rendering
import IcuMessage.Plural.Rules

/-!
# Providers of primitive formatting

A provider is where an evaluation gets everything from that depends on the
locale: the texts of numbers, dates and times, and the plural categories.  It
also says which locales it can serve.  `Provider.locales` is the provider on
the locale data of this library.
-/

namespace IcuMessage

/-- The primitive formatters that evaluation relies on. -/
structure Provider where
  /-- The name of the provider in descriptions. -/
  title : String
  formatNumber : LocaleTag → Float → NumberOptions → Except Failure String
  /-- Write a date, given in milliseconds since the beginning of 1970. -/
  formatDate : LocaleTag → Int64 → DateTimeOptions → Except Failure String
  /-- Write a time, given in milliseconds since the beginning of 1970. -/
  formatTime : LocaleTag → Int64 → DateTimeOptions → Except Failure String
  pluralCategory : LocaleTag → Float → PluralRule → Except Failure PluralCategory
  /-- The provider has what a locale needs; unless it says otherwise, for every
  language that is known. -/
  supportsLocale : LocaleTag → Bool := fun tag => !tag.isUndetermined

namespace Provider

/-- The plural category of a number in a locale, regardless of its sign. -/
def localeCategory (tag : LocaleTag) (value : Float) (rule : PluralRule) :
    Except Failure PluralCategory :=
  match PluralOperands.ofFloat? value.abs with
  | some operands => .ok (PluralRules.category (PluralRules.ofLocale tag rule) operands)
  | none => .error (.primitive .number "Invalid")

/-- The provider on the locale data of this library. -/
def locales : Provider where
  title := "IcuFormatRegistry"
  formatNumber tag value options :=
    .ok (renderNumber (NumberSymbols.ofLocale tag) options value)
  formatDate tag millis options := renderInstant localeFieldFormatter tag .date millis options
  formatTime tag millis options := renderInstant localeFieldFormatter tag .time millis options
  pluralCategory := localeCategory
  supportsLocale tag := !tag.isUndetermined && tag.isCovered

/-- The provider fails in no other way than by refusing to format a value. -/
def FailsOnlyPrimitively (provider : Provider) : Prop :=
  (∀ tag value options error,
    provider.formatNumber tag value options = .error error →
      ∃ category reason, error = .primitive category reason) ∧
  (∀ tag millis options error,
    provider.formatDate tag millis options = .error error →
      ∃ category reason, error = .primitive category reason) ∧
  (∀ tag millis options error,
    provider.formatTime tag millis options = .error error →
      ∃ category reason, error = .primitive category reason) ∧
  (∀ tag value rule error,
    provider.pluralCategory tag value rule = .error error →
      ∃ category reason, error = .primitive category reason)

end Provider

end IcuMessage
