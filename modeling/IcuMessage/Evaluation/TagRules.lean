import IcuMessage.Part
import IcuMessage.Text.Quoted

/-!
# Rules for tags

A tag wraps a part of a message.  Its name may have an effect, which turns the
parts of its contents into the parts that stand for the tag.  Any other tag is
written out around its contents, or is left away.
-/

namespace IcuMessage

/-- What becomes of a tag that has no effect. -/
inductive TagFallback where
  /-- Write the two tags around the contents. -/
  | literal
  /-- Write the contents alone. -/
  | ignore
deriving DecidableEq, Repr, Inhabited

/-- The name of a fallback in descriptions. -/
def TagFallback.title : TagFallback → String
  | .literal => "Literal"
  | .ignore => "Ignore"

/-- What becomes of the parts inside a tag. -/
abbrev TagEffect := List Part → List Part

/-- The effects of some tags by name, and the fallback for all others. -/
structure TagRules where
  fallback : TagFallback := .literal
  /-- The effects, as a table. -/
  effects : List (String × TagEffect) := []
deriving Inhabited

namespace TagRules

/-- Gather a tag with the parts of its contents. -/
def gather (rules : TagRules) (name : String) (children : List Part)
    (gathered : Gathered) : Gathered :=
  match rules.effects.lookup name with
  | some effect => gathered.addAll (effect children)
  | none =>
      match rules.fallback with
      | .literal =>
          ((gathered.addText ("<" ++ name ++ ">")).addAll children).addText
            ("</" ++ name ++ ">")
      | .ignore => gathered.addAll children

/-- The names of the tags with an effect, quoted. -/
def quotedNames (rules : TagRules) : String :=
  Text.quoteAll (rules.effects.map Prod.fst)

/-- The description of the rules. -/
def describe (rules : TagRules) : String :=
  "TagHandling \x7b unknown: " ++ rules.fallback.title ++
    ", transforms: " ++ rules.quotedNames ++ " \x7d"

end TagRules

end IcuMessage
