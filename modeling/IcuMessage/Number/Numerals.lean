import IcuMessage.Locale.Tag

/-!
# Numerals

The digits of the number systems.  In nearly all systems the ten digits are
neighbours in the order of code points, from the zero on, so the zero says
which digits they are.  The ideographs for numbers are the exception.
-/

namespace IcuMessage

/-- The digits of a number system. -/
inductive Numerals where
  /-- The zero and the nine characters after it. -/
  | onFrom (zero : Char)
  /-- The ideographs for the numbers. -/
  | ideographic
deriving DecidableEq, Repr

namespace Numerals

/-- The ASCII digits. -/
def ascii : Numerals := .onFrom '0'

/-- The ideographs in the order of their numbers. -/
def ideographs : List Char :=
  ['〇', '一', '二', '三', '四', '五', '六', '七', '八', '九']

/-- The digit that stands for an ASCII digit. -/
def digit (numerals : Numerals) (digit : Char) : Char :=
  match numerals with
  | .onFrom zero => Char.ofNat (zero.toNat + (digit.toNat - '0'.toNat))
  | .ideographic => ideographs.getD (digit.toNat - '0'.toNat) digit

/-- The zeros of the number systems whose digits are neighbours. -/
def zeros : List (Subtag × Char) :=
  [("adlm", Char.ofNat 0x1E950), ("ahom", Char.ofNat 0x11730), ("arab", '\u0660'),
    ("arabext", '\u06F0'), ("bali", '\u1B50'), ("beng", '\u09E6'), ("bhks", Char.ofNat 0x11C50),
    ("brah", Char.ofNat 0x11066), ("cakm", Char.ofNat 0x11136), ("cham", '\uAA50'),
    ("deva", '\u0966'), ("diak", Char.ofNat 0x11950), ("fullwide", '\uFF10'),
    ("gara", Char.ofNat 0x10D40), ("gong", Char.ofNat 0x11DA0), ("gonm", Char.ofNat 0x11D50),
    ("gujr", '\u0AE6'), ("gukh", Char.ofNat 0x16130), ("guru", '\u0A66'),
    ("hmng", Char.ofNat 0x16B50), ("hmnp", Char.ofNat 0x1E140), ("java", '\uA9D0'),
    ("kali", '\uA900'), ("kawi", Char.ofNat 0x11F50), ("khmr", '\u17E0'), ("knda", '\u0CE6'),
    ("krai", Char.ofNat 0x16D70), ("lana", '\u1A80'), ("lanatham", '\u1A90'),
    ("laoo", '\u0ED0'), ("latn", '0'), ("lepc", '\u1C40'), ("limb", '\u1946'),
    ("mathbold", Char.ofNat 0x1D7CE), ("mathdbl", Char.ofNat 0x1D7D8),
    ("mathmono", Char.ofNat 0x1D7F6), ("mathsanb", Char.ofNat 0x1D7EC),
    ("mathsans", Char.ofNat 0x1D7E2), ("mlym", '\u0D66'), ("modi", Char.ofNat 0x11650),
    ("mong", '\u1810'), ("mroo", Char.ofNat 0x16A60), ("mtei", '\uABF0'), ("mymr", '\u1040'),
    ("mymrepka", Char.ofNat 0x116DA), ("mymrpao", Char.ofNat 0x116D0), ("mymrshan", '\u1090'),
    ("mymrtlng", '\uA9F0'), ("nagm", Char.ofNat 0x1E4F0), ("newa", Char.ofNat 0x11450),
    ("nkoo", '\u07C0'), ("olck", '\u1C50'), ("onao", Char.ofNat 0x1E5F1), ("orya", '\u0B66'),
    ("osma", Char.ofNat 0x104A0), ("outlined", Char.ofNat 0x1CCF0),
    ("rohg", Char.ofNat 0x10D30), ("saur", '\uA8D0'), ("segment", Char.ofNat 0x1FBF0),
    ("shrd", Char.ofNat 0x111D0), ("sind", Char.ofNat 0x112F0), ("sinh", '\u0DE6'),
    ("sora", Char.ofNat 0x110F0), ("sund", '\u1BB0'), ("sunu", Char.ofNat 0x11BF0),
    ("takr", Char.ofNat 0x116C0), ("talu", '\u19D0'), ("tamldec", '\u0BE6'), ("telu", '\u0C66'),
    ("thai", '\u0E50'), ("tibt", '\u0F20'), ("tirh", Char.ofNat 0x114D0),
    ("tnsa", Char.ofNat 0x16AC0), ("tols", Char.ofNat 0x11DE0), ("vaii", '\uA620'),
    ("wara", Char.ofNat 0x118E0), ("wcho", Char.ofNat 0x1E2F0)]

/-- The digits of the number system that a subtag names. -/
def ofSubtag? (subtag : Subtag) : Option Numerals :=
  if subtag = "hanidec" then some .ideographic else (zeros.lookup subtag).map .onFrom

end Numerals

end IcuMessage
