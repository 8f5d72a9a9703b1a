import IcuMessage.Text.Blank
import IcuMessage.Text.DecimalDigit
import IcuMessage.Text.Prefix
import IcuMessage.Text.Width
import IcuMessage.Text.WordCharacter

/-!
# Headers of arguments

An argument starts with its name; a comma and a kind may follow, and behind
one more comma whatever the kind asks for.  Names and kinds are runs of word
characters, and blanks may stand around them.
-/

namespace IcuMessage

/-- The beginning of an argument. -/
inductive Header where
  /-- A name and nothing else. -/
  | bare (name : List Char)
  /-- A name and a kind, and the byte offset of the kind. -/
  | kind (name : List Char) (kind : List Char) (kindOffset : Nat)
  /-- A name, a kind and its offset, and the text behind the second comma. -/
  | openEnded (name : List Char) (kind : List Char) (kindOffset : Nat) (rest : List Char)
deriving DecidableEq, Repr

namespace Header

/-- The header of an argument whose text starts with the given one.  Offsets
count from the beginning of the text. -/
def read? (text : List Char) : Option Header :=
  match (Text.trimStart text).span Text.isWordCharacter with
  | ([], _) => none
  | (name, afterName) =>
      match Text.trimStart afterName with
      | [] => some (.bare name)
      | ',' :: afterComma =>
          let kindText := Text.trimStart afterComma
          let kindOffset := Text.byteWidth text - Text.byteWidth kindText
          match kindText.span Text.isWordCharacter with
          | ([], _) => none
          | (keyword, afterKind) =>
              match Text.trimStart afterKind with
              | [] => some (.kind name keyword kindOffset)
              | ',' :: rest => some (.openEnded name keyword kindOffset rest)
              | _ => none
      | _ => none

/-- The digits of the offset clause that a text starts with, and what follows. -/
def offsetClause? (text : List Char) : Option (List Char × List Char) :=
  match Text.afterPrefix? ['o', 'f', 'f', 's', 'e', 't', ':'] (Text.trimStart text) with
  | none => none
  | some afterWord =>
      match (Text.trimStart afterWord).span Text.isDecimalDigit with
      | ([], _) => none
      | (digits, rest) => some (digits, rest)

end Header

end IcuMessage
