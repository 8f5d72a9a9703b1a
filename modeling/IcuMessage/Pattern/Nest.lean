import IcuMessage.Failure
import IcuMessage.Text.Width

/-!
# Nesting of braces

A text with balanced braces is a list of nests: stretches without braces, and
blocks between a brace and its partner.  `Nest.read` finds them together with
their byte offsets, or reports the first closing brace without a partner, or
else the first opening brace without one.  `Nest.source` is the text of a nest.
-/

namespace IcuMessage

/-- A stretch without braces, or a block between two braces, with the byte
offset of its first character; for a block this is the one behind the brace. -/
inductive Nest where
  | text (content : List Char) (offset : Nat)
  | block (children : List Nest) (offset : Nat)
deriving Repr

namespace Nest

mutual

/-- The text of a nest, with the braces of a block. -/
def source : Nest → List Char
  | .text content _ => content
  | .block children _ => '{' :: sourceList children ++ ['}']

/-- The text of neighbouring nests. -/
def sourceList : List Nest → List Char
  | [] => []
  | nest :: rest => nest.source ++ sourceList rest

end

/-- A stretch that is still open, as nests: none if it is empty.  The content
is given in reverse. -/
def ofPending (pending : List Char) (offset : Nat) : List Nest :=
  if pending.isEmpty then [] else [.text pending.reverse offset]

/-- An opening brace that waits for its partner. -/
structure Opening where
  /-- The byte offset of the brace. -/
  offset : Nat
  /-- The nests before the brace, the last one first. -/
  before : List Nest

/-- Read on at a position, inside the given open braces, the innermost first.
`current` holds the nests before the open stretch, the last one first, and
`pending` the open stretch from `start` on, in reverse. -/
def readFrom (stack : List Opening) (current : List Nest) (pending : List Char)
    (start position : Nat) : List Char → Except PatternError (List Nest)
  | [] =>
      match stack.getLast? with
      | none => .ok (ofPending pending start ++ current).reverse
      | some outermost => .error ⟨.unclosedBrace, outermost.offset⟩
  | character :: rest =>
      let next := position + character.utf8Size
      if character = '{' then
        readFrom (⟨position, ofPending pending start ++ current⟩ :: stack) [] [] next next rest
      else if character = '}' then
        match stack with
        | [] => .error ⟨.unmatchedBrace, position⟩
        | opening :: outer =>
            let block := .block (ofPending pending start ++ current).reverse (opening.offset + 1)
            readFrom outer (block :: opening.before) [] next next rest
      else
        readFrom stack current (character :: pending) start next rest

/-- The nests of a text whose first character has the byte offset `base`. -/
def read (text : List Char) (base : Nat) : Except PatternError (List Nest) :=
  readFrom [] [] [] base base text

end Nest

end IcuMessage
