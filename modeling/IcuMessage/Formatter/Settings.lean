import IcuMessage.Evaluation.TagRules
import IcuMessage.Provider

/-!
# Settings of formatters

What a formatter is built with besides its message, its locales and its style
sheet.
-/

namespace IcuMessage

/-- The provider of a formatter, and how it treats tags. -/
structure FormatterSettings where
  provider : Provider := .locales
  tags : TagRules := {}
  /-- Read tags as plain text. -/
  ignoreTags : Bool := false

/-- The description of the settings. -/
def FormatterSettings.describe (settings : FormatterSettings) : String :=
  "FormatterOptions \x7b registry: " ++ settings.provider.title ++
    ", unknown_tags: " ++ settings.tags.fallback.title ++
    ", tag_transforms: " ++ settings.tags.quotedNames ++
    ", ignore_tag: " ++ (if settings.ignoreTags then "true" else "false") ++ " \x7d"

end IcuMessage
