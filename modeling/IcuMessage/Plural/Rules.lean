import IcuMessage.Number.Symbols
import IcuMessage.Plural.Cardinal
import IcuMessage.Plural.Ordinal

/-!
# Plural rules

The rules of a locale for cardinal and for ordinal plurals, and the category
of a number under them: the first category whose condition holds, or else
`other`.
-/

namespace IcuMessage.PluralRules

/-- The rules of the language of a name in a list of groups of languages; it has
none if it is in none of them. -/
def ofGroups (groups : List (List String × PluralRules)) (name : String) : PluralRules :=
  ((groups.find? fun group => group.1.contains name).map Prod.snd).getD []

/-- The name under which a locale has its rules, if it has locale data.  It is
that of its language, but Portuguese as in Portugal has rules of its own. -/
def key? (tag : LocaleTag) : Option String :=
  let european := tag.base.region.any NumberSymbols.europeanPortuguese.contains
  tag.dataName?.map fun name => if name = "pt" ∧ european then "pt-pt" else name

/-- The rules of a locale. -/
def ofLocale (tag : LocaleTag) (rule : PluralRule) : PluralRules :=
  match key? tag, rule with
  | none, _ => []
  | some name, .cardinal => ofGroups cardinalGroups name
  | some name, .ordinal => ofGroups ordinalGroups name

/-- The category of a number under some rules. -/
def category (rules : PluralRules) (operands : PluralOperands) : PluralCategory :=
  ((rules.find? fun rule => rule.2.holds operands).map Prod.fst).getD .other

end IcuMessage.PluralRules
