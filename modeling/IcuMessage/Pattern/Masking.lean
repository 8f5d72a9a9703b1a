import IcuMessage.Text.DecimalDigit
import IcuMessage.Text.Integer
import IcuMessage.Text.Width

/-!
# Masking of quoted text

Before the structure of a pattern is read, its quoted sections are masked, so
that the braces, number signs and tags in them do not count as notation.

A quoted section is a doubled apostrophe, which stands for one apostrophe, or
an apostrophe, one of `{`, `}`, `#` and `<`, the shortest run of characters
without a line break, and an apostrophe; it stands for what is between the
apostrophes.  Sections are found from left to right.  An apostrophe that opens
no section stands for itself.

Masking puts a numbered marker in place of each section.  `unmask` puts the
quoted text in place of each marker, and `Masked.unmaskedOffset` takes a byte
offset in the masked text to the pattern.
-/

namespace IcuMessage

/-- A stretch of a pattern. -/
inductive Piece where
  /-- A character that stands for itself. -/
  | plain (character : Char)
  /-- A doubled apostrophe. -/
  | apostrophe
  /-- The content of a section between two apostrophes. -/
  | quoted (content : List Char)
deriving DecidableEq, Repr

namespace Piece

/-- The stretch as it stands in the pattern. -/
def source : Piece → List Char
  | plain character => [character]
  | apostrophe => ['\'', '\'']
  | quoted content => '\'' :: content ++ ['\'']

/-- The text that the stretch stands for. -/
def meaning : Piece → List Char
  | plain character => [character]
  | apostrophe => ['\'']
  | quoted content => content

/-- The text that a marker keeps for a quoted stretch. -/
def quote? : Piece → Option (List Char)
  | plain _ => none
  | apostrophe => some ['\'']
  | quoted content => some content

/-- The characters after which an apostrophe can open a section. -/
def opensQuote (character : Char) : Bool :=
  character == '{' || character == '}' || character == '#' || character == '<'

/-- An apostrophe follows before any line break. -/
def closesQuote : List Char → Bool
  | [] => false
  | character :: rest =>
      character == '\'' || (character != '\n' && closesQuote rest)

/-- The pieces of the rest of a pattern, given the reversed beginning of the
section that it starts in. -/
def readFrom : Option (List Char) → List Char → List Piece
  | none, [] => []
  | none, '\'' :: '\'' :: rest => apostrophe :: readFrom none rest
  | none, '\'' :: character :: rest =>
      if opensQuote character && closesQuote rest then readFrom (some [character]) rest
      else plain '\'' :: readFrom none (character :: rest)
  | none, character :: rest => plain character :: readFrom none rest
  | some _, [] => []
  | some content, '\'' :: rest => quoted content.reverse :: readFrom none rest
  | some content, character :: rest => readFrom (some (character :: content)) rest

/-- The pieces of a pattern. -/
def read (pattern : List Char) : List Piece :=
  readFrom none pattern

end Piece

/-- The character in the middle of a marker, a noncharacter of Unicode. -/
def markerCharacter : Char := '\uFDDF'

/-- The marker for the quoted section of a number. -/
def marker (index : Nat) : List Char :=
  ['_', markerCharacter, '_'] ++ Text.writeNat index ++ ['_']

/-- How far the pattern is ahead of the masked text from a byte on. -/
structure Shift where
  /-- The byte behind a marker in the masked text. -/
  finish : Nat
  /-- The bytes that masking has removed up to there. -/
  removed : Int
deriving DecidableEq, Repr

/-- A pattern with markers in place of its quoted sections. -/
structure Masked where
  text : List Char
  quotes : List (List Char)
  shifts : List Shift
deriving DecidableEq, Repr

namespace Masked

/-- The masked text of pieces, with markers numbered from an index on. -/
def textOf (index : Nat) : List Piece → List Char
  | [] => []
  | .plain character :: rest => character :: textOf index rest
  | _ :: rest => marker index ++ textOf (index + 1) rest

/-- The shifts of pieces whose masked text starts at a position. -/
def shiftsOf (index position : Nat) (removed : Int) : List Piece → List Shift
  | [] => []
  | .plain character :: rest =>
      shiftsOf index (position + character.utf8Size) removed rest
  | piece :: rest =>
      let finish := position + Text.byteWidth (marker index)
      let gained := removed + Text.byteWidth piece.source - Text.byteWidth (marker index)
      ⟨finish, gained⟩ :: shiftsOf (index + 1) finish gained rest

/-- The masked form of a pattern. -/
def ofPattern (pattern : List Char) : Masked :=
  let pieces := Piece.read pattern
  { text := textOf 0 pieces
    quotes := pieces.filterMap Piece.quote?
    shifts := shiftsOf 0 0 0 pieces }

/-- The byte of the pattern for a byte of the masked text: every marker that
ends at or before the byte shifts it. -/
def unmaskedOffset (masked : Masked) (offset : Nat) : Nat :=
  let passed := masked.shifts.takeWhile fun shift => shift.finish ≤ offset
  let removed := (passed.getLast?.map Shift.removed).getD 0
  ((offset : Int) + removed).toNat

end Masked

/-- The digits of the marker that a text starts with. -/
def markerDigits? : List Char → Option (List Char)
  | '_' :: middle :: '_' :: rest =>
      if middle = markerCharacter then
        match rest.span Text.isDecimalDigit with
        | (digit :: digits, '_' :: _) => some (digit :: digits)
        | _ => none
      else none
  | _ => none

/-- The text for a marker with some digits: the quoted section of that number,
or the marker itself if there is no such section. -/
def markerMeaning (quotes : List (List Char)) (digits : List Char) : List Char :=
  match (Text.readNat? digits).bind fun index => quotes[index]? with
  | some quote => quote
  | none => ['_', markerCharacter, '_'] ++ digits ++ ['_']

/-- Unmask a text from behind a number of characters that are already done. -/
def unmaskFrom (quotes : List (List Char)) : Nat → List Char → List Char
  | _, [] => []
  | done + 1, _ :: rest => unmaskFrom quotes done rest
  | 0, character :: rest =>
      match markerDigits? (character :: rest) with
      | some digits => markerMeaning quotes digits ++ unmaskFrom quotes (digits.length + 3) rest
      | none => character :: unmaskFrom quotes 0 rest

/-- Put the quoted sections in place of the markers of a text. -/
def unmask (quotes : List (List Char)) (text : List Char) : List Char :=
  unmaskFrom quotes 0 text

theorem unmaskFrom_eq_unmask_drop
    (quotes : List (List Char)) (done : Nat) (text : List Char) :
    unmaskFrom quotes done text = unmask quotes (text.drop done) := by
  induction text generalizing done with
  | nil => simp [unmask, unmaskFrom]
  | cons character rest ih =>
      cases done with
      | zero => simp [unmask]
      | succ done => simpa [unmaskFrom] using ih done

end IcuMessage
