import IcuMessage.Text.GraphemeExtend
import IcuMessage.Text.Unprintable

/-!
# Quoted text

Text is quoted for reports.  It stands between quotation marks, with a
backslash before quotation marks and backslashes, short escapes for the usual
control characters, and the code point in braces for every other character
that would not show or would run into the one before it.
-/

namespace IcuMessage.Text

/-- The code point of a character in braces, in the fewest hexadecimal digits. -/
def escapeCodePoint (character : Char) : List Char :=
  '\\' :: 'u' :: '\x7b' :: Nat.toDigits 16 character.toNat ++ ['\x7d']

/-- A letter without a shape, which fills the place of a part of a Hangul syllable. -/
def isHangulFiller (character : Char) : Bool :=
  ['\u115F', '\u1160', '\u3164', '\uFFA0'].contains character

/-- A halfwidth voicing mark.  It extends a grapheme, and all the same it has a
place of its own in a line. -/
def isVoicingMark (character : Char) : Bool :=
  ['\uFF9E', '\uFF9F'].contains character

/-- A character shows by itself in a line of text. -/
def showsAlone (character : Char) : Bool :=
  !isUnprintable character && !isHangulFiller character &&
    (!extendsGrapheme character || isVoicingMark character)

/-- A character as it stands in quoted text. -/
def quoteCharacter (character : Char) : List Char :=
  match character with
  | '\x00' => ['\\', '0']
  | '\t' => ['\\', 't']
  | '\r' => ['\\', 'r']
  | '\n' => ['\\', 'n']
  | '\\' => ['\\', '\\']
  | '"' => ['\\', '"']
  | other => if showsAlone other then [other] else escapeCodePoint other

/-- Text between quotation marks. -/
def quote (text : String) : String :=
  String.ofList ('"' :: text.toList.flatMap quoteCharacter ++ ['"'])

/-- The quoted texts of a list, in brackets. -/
def quoteAll (texts : List String) : String :=
  "[" ++ ", ".intercalate (texts.map quote) ++ "]"

end IcuMessage.Text
