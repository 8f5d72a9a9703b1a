import IcuMessage.Failure
import IcuMessage.Table
import IcuMessage.Text.Blank

/-!
# Locale tags

Unicode locale identifiers: a language, then optionally a script, a region,
variants and extensions, as subtags of ASCII letters and digits with hyphens
between them.  Case does not count on reading.  On writing, the language is in
lower case, the script in title case, the region in upper case and all else in
lower case, with variants, extensions, attributes and keywords in ascending
order, and subtags are not replaced by aliases.
-/

namespace IcuMessage

/-- A subtag in lower case. -/
abbrev Subtag := String

/-- A language with its script, region and variants, in lower case. -/
structure LanguageTag where
  language : Subtag
  script : Option Subtag := none
  region : Option Subtag := none
  /-- Without repetitions, in ascending order. -/
  variants : List Subtag := []
deriving DecidableEq, Repr

/-- The extension `u`: attributes, and keywords with their values. -/
structure UnicodeExtension where
  attributes : List Subtag := []
  keywords : List (Subtag × List Subtag) := []
deriving DecidableEq, Inhabited, Repr

/-- The extension `t`: a language, and fields with their values. -/
structure TransformExtension where
  language : Option LanguageTag := none
  fields : List (Subtag × List Subtag) := []
deriving DecidableEq, Inhabited, Repr

/-- A locale identifier, in lower case. -/
structure LocaleTag where
  base : LanguageTag
  transform : Option TransformExtension := none
  unicode : Option UnicodeExtension := none
  /-- All other extensions, by their singleton. -/
  others : List (Subtag × List Subtag) := []
  privateUse : List Subtag := []
deriving DecidableEq, Repr

namespace Subtag

/-- All characters are ASCII letters or digits, and their number is in a range. -/
def isAlphanumeric (least greatest : Nat) (subtag : Subtag) : Bool :=
  subtag.toList.all Char.isAlphanum &&
    least ≤ subtag.toList.length && subtag.toList.length ≤ greatest

/-- Two or three letters. -/
def isLanguage (subtag : Subtag) : Bool :=
  subtag.isAlphanumeric 2 3 && subtag.toList.all Char.isAlpha

/-- Four letters. -/
def isScript (subtag : Subtag) : Bool :=
  subtag.isAlphanumeric 4 4 && subtag.toList.all Char.isAlpha

/-- Two letters or three digits. -/
def isRegion (subtag : Subtag) : Bool :=
  (subtag.isAlphanumeric 2 2 && subtag.toList.all Char.isAlpha) ||
    (subtag.isAlphanumeric 3 3 && subtag.toList.all Char.isDigit)

/-- Five to eight letters or digits, or four that start with a digit. -/
def isVariant (subtag : Subtag) : Bool :=
  subtag.isAlphanumeric 5 8 ||
    (subtag.isAlphanumeric 4 4 && (subtag.toList.take 1).all Char.isDigit)

/-- One letter or digit, which opens an extension. -/
def isSingleton (subtag : Subtag) : Bool :=
  subtag.isAlphanumeric 1 1

/-- A letter or digit and then a letter, which opens a keyword. -/
def isKeywordKey (subtag : Subtag) : Bool :=
  subtag.isAlphanumeric 2 2 && (subtag.toList.drop 1).all Char.isAlpha

/-- A letter and then a digit, which opens a field. -/
def isFieldKey (subtag : Subtag) : Bool :=
  subtag.isAlphanumeric 2 2 && (subtag.toList.take 1).all Char.isAlpha &&
    (subtag.toList.drop 1).all Char.isDigit

/-- Three to eight letters or digits: an attribute, or a part of a value. -/
def isValue (subtag : Subtag) : Bool :=
  subtag.isAlphanumeric 3 8

/-- Two to eight bytes: a part of an extension without rules of its own. -/
def isPart (subtag : Subtag) : Bool :=
  2 ≤ subtag.utf8ByteSize && subtag.utf8ByteSize ≤ 8

end Subtag

namespace LanguageTag

/-- Take the subtag in front if it has a form. -/
def takeIf (form : Subtag → Bool) : List Subtag → Option Subtag × List Subtag
  | [] => (none, [])
  | subtag :: rest => if form subtag then (some subtag, rest) else (none, subtag :: rest)

/-- Take variants as long as there are any; none may stand twice. -/
def variants? (seen : List (Subtag × Unit)) :
    List Subtag → Option (List Subtag × List Subtag)
  | [] => some (seen.map Prod.fst, [])
  | subtag :: rest =>
      if subtag.isVariant then
        if (seen.lookup subtag).isSome then none
        else variants? (Table.insert subtag () seen) rest
      else some (seen.map Prod.fst, subtag :: rest)

/-- The language in front of a list of subtags, and the subtags behind it. -/
def read? : List Subtag → Option (LanguageTag × List Subtag)
  | [] => none
  | language :: rest =>
      if language.isLanguage then do
        let (script, rest) := takeIf Subtag.isScript rest
        let (region, rest) := takeIf Subtag.isRegion rest
        let (variants, rest) ← variants? [] rest
        some (⟨language, script, region, variants⟩, rest)
      else none

/-- The subtags of a language, all in lower case. -/
def subtags (tag : LanguageTag) : List Subtag :=
  tag.language :: tag.script.toList ++ tag.region.toList ++ tag.variants

end LanguageTag

namespace LocaleTag

/-- Enter the values that are open under a key, given in reverse, in a table;
the key keeps the values that it has already. -/
def keepFirst (key : Subtag) (values : List Subtag)
    (table : List (Subtag × List Subtag)) : List (Subtag × List Subtag) :=
  if (table.lookup key).isSome then table else Table.insert key values.reverse table

/-- Take the keywords in front of a list of subtags.  `current` is the key that
is open with its values, the last one first.  The value `true` is left out. -/
def keywords? (table : List (Subtag × List Subtag)) (current : Option (Subtag × List Subtag)) :
    List Subtag → Option (List (Subtag × List Subtag) × List Subtag)
  | [] => some ((current.map fun entry => keepFirst entry.1 entry.2 table).getD table, [])
  | subtag :: rest =>
      let closed := (current.map fun entry => keepFirst entry.1 entry.2 table).getD table
      if subtag.toList.length = 2 then
        if subtag.isKeywordKey then keywords? closed (some (subtag, [])) rest else none
      else match current with
        | some (key, values) =>
            if subtag.isValue then
              let longer := if subtag = "true" then values else subtag :: values
              keywords? table (some (key, longer)) rest
            else some (closed, subtag :: rest)
        | none => some (table, subtag :: rest)

/-- The extension `u` behind its singleton. -/
def unicode? (subtags : List Subtag) : Option (UnicodeExtension × List Subtag) := do
  let (attributes, rest) := subtags.span Subtag.isValue
  let ordered := Table.ofList (attributes.map fun name => (name, ()))
  let (keywords, rest) ← keywords? [] none rest
  if attributes.isEmpty && keywords.isEmpty then none
  else some (⟨ordered.map Prod.fst, keywords⟩, rest)

/-- Enter the field that is open, with its values in reverse, in a table.  A
field needs a value; the value `true` alone is kept, and beside others it is
left out. -/
def closeField? (table : List (Subtag × List Subtag)) (key : Subtag) (values : List Subtag) :
    Option (List (Subtag × List Subtag)) :=
  if values.isEmpty then none
  else
    let telling := values.filter (· != "true")
    some (keepFirst key (if telling.isEmpty then ["true"] else telling) table)

/-- Take the fields in front of a list of subtags.  `current` is the key that is
open with its values, the last one first. -/
def fields? (table : List (Subtag × List Subtag)) (current : Option (Subtag × List Subtag)) :
    List Subtag → Option (List (Subtag × List Subtag) × List Subtag)
  | [] =>
      match current with
      | none => some (table, [])
      | some (key, values) => (closeField? table key values).map (·, [])
  | subtag :: rest =>
      match current with
      | none =>
          if subtag.isFieldKey then fields? table (some (subtag, [])) rest
          else some (table, subtag :: rest)
      | some (key, values) =>
          if subtag.isValue then fields? table (some (key, subtag :: values)) rest
          else do
            let table ← closeField? table key values
            if subtag.isFieldKey then fields? table (some (subtag, [])) rest
            else some (table, subtag :: rest)

/-- The extension `t` behind its singleton. -/
def transform? (subtags : List Subtag) : Option (TransformExtension × List Subtag) := do
  let (language, rest) ← match subtags with
    | first :: _ =>
        if first.isLanguage then
          (LanguageTag.read? subtags).map fun (language, rest) => (some language, rest)
        else some (none, subtags)
    | [] => some (none, [])
  let (fields, rest) ← fields? [] none rest
  if language.isNone && fields.isEmpty then none
  else some (⟨language, fields⟩, rest)

/-- Read the extension behind a singleton, which must not stand twice.  In an
extension without rules of its own, the parts that are no letters and digits
are left out. -/
def extension? (tag : LocaleTag) (singleton : Subtag) (subtags : List Subtag) :
    Option (LocaleTag × List Subtag) :=
  match singleton with
  | "u" =>
      if tag.unicode.isSome then none
      else (unicode? subtags).map fun (extension, rest) =>
        ({ tag with unicode := some extension }, rest)
  | "t" =>
      if tag.transform.isSome then none
      else (transform? subtags).map fun (extension, rest) =>
        ({ tag with transform := some extension }, rest)
  | "x" =>
      if subtags.isEmpty || !subtags.all (Subtag.isAlphanumeric 1 8) then none
      else some ({ tag with privateUse := subtags }, [])
  | other =>
      let (parts, rest) := subtags.span Subtag.isPart
      let values := parts.filter (Subtag.isAlphanumeric 2 8)
      if values.isEmpty || (tag.others.lookup other).isSome then none
      else some ({ tag with others := Table.insert other values tag.others }, rest)

/-- Read extensions to the end of a list of subtags.  Every extension takes at
least its singleton, so `count` extensions are enough for `count` subtags. -/
def extensions? (tag : LocaleTag) (count : Nat) (subtags : List Subtag) : Option LocaleTag :=
  match count, subtags with
  | _, [] => some tag
  | 0, _ :: _ => none
  | count + 1, singleton :: rest =>
      if singleton.isSingleton then
        match tag.extension? singleton rest with
        | none => none
        | some (tag, rest) => tag.extensions? count rest
      else none

/-- The pieces of a text between its hyphens and low lines, in lower case. -/
def splitSubtags : List Char → List (List Char)
  | [] => [[]]
  | character :: rest =>
      if character = '-' ∨ character = '_' then [] :: splitSubtags rest
      else match splitSubtags rest with
        | [] => [[character.toLower]]
        | piece :: pieces => (character.toLower :: piece) :: pieces

/-- The locale that a text denotes. -/
def read? (text : String) : Option LocaleTag := do
  let subtags := (splitSubtags (Text.trim text.toList)).map String.ofList
  let (base, rest) ← LanguageTag.read? subtags
  extensions? ⟨base, none, none, [], []⟩ rest.length rest

/-- A subtag with its first letter in upper case. -/
def titleCase (subtag : Subtag) : String :=
  match subtag.toList with
  | [] => ""
  | first :: rest => String.ofList (first.toUpper :: rest)

/-- A subtag in upper case. -/
def upperCase (subtag : Subtag) : String :=
  String.ofList (subtag.toList.map Char.toUpper)

/-- The subtags of a table, each key in front of its values. -/
def tableSubtags (table : List (Subtag × List Subtag)) : List Subtag :=
  table.flatMap fun entry => entry.1 :: entry.2

/-- The subtags of the extensions, in the order of their singletons. -/
def extensionSubtags (tag : LocaleTag) : List Subtag :=
  let transform := tag.transform.map fun extension =>
    "t" :: (extension.language.map LanguageTag.subtags).getD [] ++ tableSubtags extension.fields
  let unicode := tag.unicode.map fun extension =>
    "u" :: extension.attributes ++ tableSubtags extension.keywords
  tableSubtags (tag.others.filter (·.1 < "t")) ++ transform.getD [] ++ unicode.getD [] ++
    tableSubtags (tag.others.filter fun other => !(other.1 < "t")) ++
    if tag.privateUse.isEmpty then [] else "x" :: tag.privateUse

/-- The canonical text of a locale. -/
def write (tag : LocaleTag) : String :=
  "-".intercalate
    (tag.base.language :: (tag.base.script.map titleCase).toList ++
      (tag.base.region.map upperCase).toList ++ tag.base.variants ++ tag.extensionSubtags)

/-- The value of a keyword of the extension `u`. -/
def keyword? (tag : LocaleTag) (key : Subtag) : Option (List Subtag) :=
  tag.unicode.bind fun extension => extension.keywords.lookup key

/-- The value of a keyword of the extension `u` that is a single subtag. -/
def keywordWord? (tag : LocaleTag) (key : Subtag) : Option Subtag :=
  match tag.keyword? key with
  | some [word] => some word
  | _ => none

/-- The language of the tag is not known. -/
def isUndetermined (tag : LocaleTag) : Bool :=
  tag.base.language == "und"

/-- The locale of a requested tag. -/
def canonicalize (tag : String) : Except Failure LocaleTag :=
  match read? tag with
  | some locale => .ok locale
  | none => .error (.unsupportedLocale tag)

/-- The locale used when none of the requested ones can be. -/
def english : LocaleTag where
  base := { language := "en" }

end LocaleTag

end IcuMessage
