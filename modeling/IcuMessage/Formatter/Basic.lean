import IcuMessage.Evaluation.Evaluator
import IcuMessage.Formatter.Settings
import IcuMessage.Locale.Negotiation
import IcuMessage.Message.Equality
import IcuMessage.Message.Validation
import IcuMessage.Pattern.Parser

/-!
# Formatters

A formatter is built once, from a pattern or a message, for a list of locales,
and then formats any number of times.  Building it parses the pattern, settles
the locale and validates the message, in this order, so that a formatter fails
later only on account of its values.
-/

namespace IcuMessage

/-- What a formatter is built from. -/
inductive Source where
  | pattern (text : String)
  | tree (message : Message)
deriving DecidableEq

namespace Source

/-- The message of a source. -/
def message (source : Source) (ignoreTags : Bool) : Except Failure Message :=
  match source with
  | .tree message => .ok message
  | .pattern text =>
      match parse ignoreTags text with
      | .ok message => .ok message
      | .error error => .error (.invalidPattern error)

/-- The pattern of a source, which is printed if there is none. -/
def patternText : Source → String
  | .pattern text => text
  | .tree message => message.print

end Source

/-- A message that is ready to be formatted. -/
structure Formatter where
  /-- The pattern that is quoted when a value is missing. -/
  pattern : String
  message : Message
  locale : LocaleTag
  provider : Provider
  sheet : StyleSheet
  styles : StyleMemo
  tags : TagRules

namespace Formatter

/-- Build a formatter for the first usable locale. -/
def create (source : Source) (locales : List String) (sheet : StyleSheet)
    (settings : FormatterSettings) : Traced Formatter := do
  let message ← source.message settings.ignoreTags
  let locale ← settings.provider.negotiate locales
  let styles ← message.validate sheet {}
  Traced.report (.formatterCreated locale message.length styles.size)
  pure
    { pattern := source.patternText
      message := message
      locale := locale
      provider := settings.provider
      sheet := sheet
      styles := styles
      tags := settings.tags }

/-- Build a formatter with the usual settings for one locale, or for English. -/
def createFor (source : Source) (locale : Option String) : Traced Formatter :=
  create source locale.toList {} {}

/-- The environment in which a formatter evaluates its message. -/
def environment (formatter : Formatter) (values : Bindings) : Environment where
  provider := formatter.provider
  locale := formatter.locale
  sheet := formatter.sheet
  styles := formatter.styles
  tags := formatter.tags
  pattern := formatter.pattern
  values := values

/-- The parts of the message with its values filled in. -/
def formatToParts (formatter : Formatter) (values : Bindings) : Traced (List Part) :=
  formatter.message.parts (formatter.environment values)

/-- The text of the message with its values filled in. -/
def format (formatter : Formatter) (values : Bindings) : Traced String := do
  let parts ← formatter.formatToParts values
  pure (writeParts parts)

end Formatter

end IcuMessage
