import IcuMessage.Failure
import IcuMessage.Message.Equality
import IcuMessage.Text.Width
import IcuMessage.Text.WordCharacter

/-!
# Tags

The text of a message is cut into tokens: nodes, opening tags and closing
tags.  `assemble` builds the tree of the tags.  It reports the first closing
tag that does not match the innermost open tag, or else the innermost tag that
is still open at the end.
-/

namespace IcuMessage

/-- An element of a message before its tags are paired. -/
inductive Token where
  | node (node : Node)
  | opening (name : String) (offset : Nat)
  | closing (name : String) (offset : Nat)
deriving DecidableEq, Repr

/-- A tag as it stands in text. -/
structure Tag where
  isClosing : Bool
  name : List Char
deriving DecidableEq, Repr

namespace Tag

/-- The number of characters of a tag, its brackets included. -/
def length (tag : Tag) : Nat :=
  tag.name.length + if tag.isClosing then 3 else 2

/-- The characters of a tag name behind its first letter. -/
def isNameCharacter (character : Char) : Bool :=
  Text.isWordCharacter character || character == '-'

/-- The name of a tag, an ASCII letter and then name characters, up to the
closing bracket. -/
def name? : List Char → Option (List Char)
  | [] => none
  | first :: rest =>
      if first.isAlpha then
        match rest.span isNameCharacter with
        | (more, '>' :: _) => some (first :: more)
        | _ => none
      else none

/-- The tag that a text starts with. -/
def read? : List Char → Option Tag
  | '<' :: '/' :: rest => (name? rest).map fun name => ⟨true, name⟩
  | '<' :: rest => (name? rest).map fun name => ⟨false, name⟩
  | _ => none

/-- The token for a tag at a byte offset. -/
def token (tag : Tag) (offset : Nat) : Token :=
  if tag.isClosing then .closing (String.ofList tag.name) offset
  else .opening (String.ofList tag.name) offset

end Tag

/-- A node behind others, the last one first.  Literals that meet become one. -/
def appendNode (node : Node) : List Node → List Node
  | .literal last :: rest =>
      match node with
      | .literal text => .literal (last ++ text) :: rest
      | node => node :: .literal last :: rest
  | before => node :: before

/-- An opening tag that waits for its partner. -/
structure OpenTag where
  name : String
  offset : Nat
  /-- The nodes before the tag, the last one first. -/
  before : List Node
deriving DecidableEq, Repr

/-- Build the tree of tokens inside the given open tags, the innermost first.
`current` holds the nodes since the innermost open tag, the last one first. -/
def assembleFrom (stack : List OpenTag) (current : List Node) :
    List Token → Except PatternError (List Node)
  | [] =>
      match stack with
      | [] => .ok current.reverse
      | innermost :: _ => .error ⟨.unclosedTag innermost.name, innermost.offset⟩
  | .node node :: rest => assembleFrom stack (appendNode node current) rest
  | .opening name offset :: rest => assembleFrom (⟨name, offset, current⟩ :: stack) [] rest
  | .closing name offset :: rest =>
      match stack with
      | [] => .error ⟨.unmatchedClosingTag name, offset⟩
      | innermost :: outer =>
          if innermost.name = name then
            assembleFrom outer (.tag name current.reverse :: innermost.before) rest
          else .error ⟨.mismatchedClosingTag name innermost.name, offset⟩

/-- Build the tree of tokens. -/
def assemble (tokens : List Token) : Except PatternError (List Node) :=
  assembleFrom [] [] tokens

end IcuMessage
