/-!
# Patterns of dates and times

A pattern is a row of fields and literal text.  A run of one letter is a field,
in the letters of Unicode Technical Standard 35; the run's length is the width
of the field.  Between apostrophes letters are literal text.
-/

namespace IcuMessage

/-- A field of a pattern, or a character of its literal text. -/
inductive PatternItem where
  | field (letter : Char) (width : Nat)
  | literal (character : Char)
deriving DecidableEq, Repr

namespace PatternItem

/-- The letter stands for the hour. -/
def isHourLetter (letter : Char) : Bool :=
  letter == 'h' || letter == 'H' || letter == 'K'

/-- The item with another letter for the hour, if it stands for the hour. -/
def countHours (hourLetter : Char) : PatternItem → PatternItem
  | .field letter width => .field (if isHourLetter letter then hourLetter else letter) width
  | .literal character => .literal character

/-- Put a letter before items; it widens a field of the same letter. -/
def letterBefore (letter : Char) : List PatternItem → List PatternItem
  | .field first width :: rest =>
      if letter = first then .field first (width + 1) :: rest
      else .field letter 1 :: .field first width :: rest
  | items => .field letter 1 :: items

/-- The items of a pattern that starts inside or outside of apostrophes. -/
def read (quoted : Bool) : List Char → List PatternItem
  | [] => []
  | character :: rest =>
      if character = '\'' then read (!quoted) rest
      else if !quoted && character.isAlpha then letterBefore character (read quoted rest)
      else .literal character :: read quoted rest

/-- The items of a pattern. -/
def ofText (pattern : String) : List PatternItem :=
  read false pattern.toList

end PatternItem

end IcuMessage
