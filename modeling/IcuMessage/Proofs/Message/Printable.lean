import IcuMessage.Proofs.Message.FreePound
import IcuMessage.Proofs.Pattern.Headers
import IcuMessage.Proofs.Pattern.TagText

/-!
# Messages that the notation can express

The notation of patterns cannot express every message: it has no way to write
an empty literal or two literals in a row, a name with a blank in it, or a style
with an apostrophe.  `Message.Printable` lists what a message must respect, at
every depth.  Literal text may hold any notation, since it is escaped.
-/

namespace IcuMessage

/-- A text that can stand as the key of an option. -/
structure IsKeyText (text : List Char) : Prop where
  filled : text ≠ []
  plain : ∀ character ∈ text,
    Text.isBlank character = false ∧ character ≠ '{' ∧ character ≠ '}' ∧ character ≠ '\'' ∧
      character ≠ markerCharacter

instance (text : List Char) : Decidable (IsKeyText text) :=
  @decidable_of_iff _
    (text ≠ [] ∧ ∀ character ∈ text,
      Text.isBlank character = false ∧ character ≠ '{' ∧ character ≠ '}' ∧ character ≠ '\'' ∧
        character ≠ markerCharacter)
    ⟨fun ⟨filled, plain⟩ => ⟨filled, plain⟩, fun ⟨filled, plain⟩ => ⟨filled, plain⟩⟩
    (@instDecidableAnd _ _ _ (List.decidableBAll _ text))

/-- A text that can stand as a style, or as the skeleton of one. -/
structure IsStyleText (text : List Char) : Prop where
  trimmed : Text.trim text = text
  plain : ∀ character ∈ text,
    character ≠ '{' ∧ character ≠ '}' ∧ character ≠ '\'' ∧ character ≠ markerCharacter

instance (text : List Char) : Decidable (IsStyleText text) :=
  @decidable_of_iff _
    (Text.trim text = text ∧ ∀ character ∈ text,
      character ≠ '{' ∧ character ≠ '}' ∧ character ≠ '\'' ∧ character ≠ markerCharacter)
    ⟨fun ⟨trimmed, plain⟩ => ⟨trimmed, plain⟩, fun ⟨trimmed, plain⟩ => ⟨trimmed, plain⟩⟩
    (@instDecidableAnd _ _ _ (List.decidableBAll _ text))

/-- A style that the notation can express.  A name must not look like a skeleton. -/
def Style.Printable : Style → Prop
  | .named name =>
      name ≠ "" ∧ ¬ [':', ':'] <+: name.toList ∧ IsStyleText name.toList
  | .skeleton text => IsStyleText text.toList

/-- A message starts with literal text. -/
def Message.StartsWithLiteral : Message → Prop
  | .literal _ :: _ => True
  | _ => False

/-- A message that the notation can express, but for its free number signs. -/
inductive Message.Printable : Message → Prop where
  | nil : Printable []
  | literal {text : String} {rest : Message}
      (filled : text ≠ "")
      (unmarked : markerCharacter ∉ text.toList)
      (apart : ¬ StartsWithLiteral rest)
      (later : Printable rest) :
      Printable (.literal text :: rest)
  | argument {name : String} {rest : Message}
      (named : IsName name.toList)
      (later : Printable rest) :
      Printable (.argument name :: rest)
  | formatted {category : Category} {name : String} {style : Option Style} {rest : Message}
      (named : IsName name.toList)
      (styled : ∀ given, style = some given → given.Printable)
      (later : Printable rest) :
      Printable (.formatted category name style :: rest)
  | plural {name : String} {rule : PluralRule} {offset : Int64}
      {branches : List (PluralKey × Message)} {rest : Message}
      (named : IsName name.toList)
      (shifted : 0 ≤ offset.toInt)
      (other : (branches.lookup .other).isSome)
      (inside : ∀ branch ∈ branches, Printable branch.2)
      (later : Printable rest) :
      Printable (.plural name rule offset branches :: rest)
  | select {name : String} {branches : List (String × Message)} {rest : Message}
      (named : IsName name.toList)
      (keys : ∀ branch ∈ branches, IsKeyText branch.1.toList)
      (other : (branches.lookup otherKey).isSome)
      (inside : ∀ branch ∈ branches, Printable branch.2)
      (later : Printable rest) :
      Printable (.select name branches :: rest)
  | pound {rest : Message}
      (later : Printable rest) :
      Printable (.pound :: rest)
  | tag {name : String} {children rest : Message}
      (named : IsTagName name.toList)
      (inside : Printable children)
      (later : Printable rest) :
      Printable (.tag name children :: rest)

end IcuMessage
