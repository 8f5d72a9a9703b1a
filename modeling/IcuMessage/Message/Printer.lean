import IcuMessage.Message.PluralKey

/-!
# Printing messages

A message is printed in the notation of patterns.  In literal text an
apostrophe is doubled, and a brace, a number sign or a less-than sign stands
between apostrophes.  All branches of an argument are printed in the order of
their keys, and an offset of zero is left out.
-/

namespace IcuMessage

/-- The escaped form of one character of literal text. -/
def escapeCharacter (character : Char) : List Char :=
  if character = '\'' then ['\'', '\'']
  else if character = '{' ∨ character = '}' ∨ character = '#' ∨ character = '<' then
    ['\'', character, '\'']
  else [character]

/-- The escaped form of literal text. -/
def escape (text : String) : String :=
  String.ofList (text.toList.flatMap escapeCharacter)

/-- The word for a plural argument in patterns. -/
def PluralRule.word : PluralRule → String
  | .cardinal => "plural"
  | .ordinal => "selectordinal"

/-- A style with the comma before it, or nothing. -/
def printStyle : Option Style → String
  | none => ""
  | some (.named name) => ", " ++ name
  | some (.skeleton text) => ", ::" ++ text

/-- An offset that is not zero, with the space before it. -/
def printOffset (offset : Int64) : String :=
  if offset = 0 then "" else " offset:" ++ String.ofList (Text.writeInt64 offset)

mutual

/-- The notation of a node. -/
def Node.print : Node → String
  | .literal text => escape text
  | .argument name => "\x7b" ++ name ++ "\x7d"
  | .formatted category name style =>
      "\x7b" ++ name ++ ", " ++ category.word ++ printStyle style ++ "\x7d"
  | .plural name rule offset branches =>
      "\x7b" ++ name ++ ", " ++ rule.word ++ "," ++ printOffset offset ++
        printPluralBranches branches ++ "\x7d"
  | .select name branches =>
      "\x7b" ++ name ++ ", select," ++ printSelectBranches branches ++ "\x7d"
  | .pound => "#"
  | .tag name children =>
      "<" ++ name ++ ">" ++ Message.print children ++ "</" ++ name ++ ">"

/-- The notation of a message. -/
def Message.print : Message → String
  | [] => ""
  | node :: rest => node.print ++ Message.print rest

/-- The notation of plural branches, each with a space before it. -/
def printPluralBranches : List (PluralKey × List Node) → String
  | [] => ""
  | (key, body) :: rest =>
      " " ++ key.write ++ " \x7b" ++ Message.print body ++ "\x7d" ++ printPluralBranches rest

/-- The notation of select branches, each with a space before it. -/
def printSelectBranches : List (String × List Node) → String
  | [] => ""
  | (key, body) :: rest =>
      " " ++ key ++ " \x7b" ++ Message.print body ++ "\x7d" ++ printSelectBranches rest

end

end IcuMessage
