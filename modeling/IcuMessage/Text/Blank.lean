/-!
# Blank text

Blank characters are those with the Unicode property `White_Space`.  They
separate the tokens of a skeleton and may surround the keys, names and styles
of a pattern.  A zero width space is not blank.
-/

namespace IcuMessage.Text

/-- The Unicode property `White_Space`. -/
def isBlank (character : Char) : Bool :=
  let code := character.toNat
  (0x09 ≤ code && code ≤ 0x0D) || code == 0x20 || code == 0x85 || code == 0xA0 ||
    code == 0x1680 || (0x2000 ≤ code && code ≤ 0x200A) || code == 0x2028 ||
    code == 0x2029 || code == 0x202F || code == 0x205F || code == 0x3000

/-- The text without its leading blanks. -/
def trimStart (text : List Char) : List Char :=
  text.dropWhile isBlank

/-- The text without its trailing blanks. -/
def trimEnd (text : List Char) : List Char :=
  (text.reverse.dropWhile isBlank).reverse

/-- The text without its leading and trailing blanks. -/
def trim (text : List Char) : List Char :=
  trimEnd (trimStart text)

/-- The pieces of a text between its blanks; two neighbouring blanks have an
empty piece between them. -/
def splitBlanks : List Char → List (List Char)
  | [] => [[]]
  | character :: rest =>
      if isBlank character then [] :: splitBlanks rest
      else match splitBlanks rest with
        | [] => [[character]]
        | piece :: pieces => (character :: piece) :: pieces

/-- The maximal runs of characters that are not blank. -/
def words (text : List Char) : List (List Char) :=
  (splitBlanks text).filter fun piece => !piece.isEmpty

/-- Some character of the text is blank. -/
def hasBlank (text : List Char) : Bool :=
  text.any isBlank

@[simp]
theorem words_nil : words [] = [] := rfl

@[simp]
theorem words_cons_blank
    {character : Char} (blank : isBlank character = true) (rest : List Char) :
    words (character :: rest) = words rest := by
  simp [words, splitBlanks, blank]

end IcuMessage.Text
