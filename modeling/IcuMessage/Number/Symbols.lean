import IcuMessage.Locale.Coverage
import IcuMessage.Number.Numerals

/-!
# Number symbols

How the locales write the parts of a number: the decimal sign, the group sign
and the sizes of groups, the signs, and the digits.  The keyword `nu` of a
locale chooses other digits, and some languages have other symbols beside them
than beside their usual digits.
-/

namespace IcuMessage

/-- The symbols of a locale. -/
structure NumberSymbols where
  decimal : String := "."
  group : String := ","
  /-- The size of the groups to the left of the first, which has three digits. -/
  laterGroups : Nat := 3
  /-- The digits that have to stand before the first group for it to be set off. -/
  minimumGrouping : Nat := 1
  minus : String := "-"
  plus : String := "+"
  numerals : Numerals := .ascii
deriving DecidableEq, Repr

namespace NumberSymbols

/-- A comma before the fraction, and a sign between groups. -/
def withComma (group : String) : NumberSymbols where
  decimal := ","
  group := group

/-- A comma before the fraction, and a sign between groups from five digits on. -/
def withCommaFromFive (group : String) : NumberSymbols where
  decimal := ","
  group := group
  minimumGrouping := 2

/-- A point before the fraction, and an apostrophe between groups. -/
def withApostrophe : NumberSymbols where
  group := "'"

/-- Groups of two digits behind the first. -/
def indian : NumberSymbols where
  laterGroups := 2

/-- Arabic digits with their signs. -/
def arabic : NumberSymbols where
  decimal := "\u066b"
  group := "\u066c"
  minus := "\u061c-"
  plus := "\u061c+"
  numerals := .onFrom '\u0660'

/-- Persian digits with their signs. -/
def persian : NumberSymbols where
  decimal := "\u066b"
  group := "\u066c"
  minus := "\u200e\u2212"
  plus := "\u200e+"
  numerals := .onFrom '\u06f0'

/-- The symbols of Arabic.  Its western and some eastern regions have Latin
digits, unless others are asked for. -/
def ofArabic (region system : Option Subtag) : NumberSymbols :=
  let usual := region.any fun region =>
    ["bh", "dj", "eg", "er", "il", "iq", "jo", "km", "kw", "lb", "mr", "om", "ps", "qa", "sa",
      "sd", "so", "ss", "sy", "td", "ye"].contains region
  let comma := region.any fun region => ["dz", "lb", "ly", "ma", "mr", "tn"].contains region
  if system = some "arab" ∨ system ≠ some "latn" ∧ usual then arabic
  else
    { (if comma then withComma "." else {}) with minus := "\u200e-", plus := "\u200e+" }

/-- The symbols of Persian. -/
def ofPersian (system : Option Subtag) : NumberSymbols :=
  if system = some "latn" then { minus := "\u200e\u2212", plus := "\u200e+" } else persian

/-- The symbols of German. -/
def ofGerman : Option Subtag → NumberSymbols
  | some "at" => withComma "\u00a0"
  | some "ch" | some "li" => withApostrophe
  | _ => withComma "."

/-- The symbols of English. -/
def ofEnglish : Option Subtag → NumberSymbols
  | some "at" | some "be" | some "de" | some "dk" | some "es" | some "id" | some "it"
  | some "nl" | some "pl" | some "ro" | some "si" => withComma "."
  | some "ch" => withApostrophe
  | some "cz" | some "ee" | some "fi" | some "hu" | some "lt" | some "lv" | some "no"
  | some "pt" | some "se" | some "sk" | some "ua" | some "za" => withComma "\u00a0"
  | some "fr" | some "ge" => withComma "\u202f"
  | some "in" => indian
  | _ => {}

/-- The symbols of Spanish. -/
def ofSpanish : Option Subtag → NumberSymbols
  | some "ar" | some "bo" | some "cl" | some "co" | some "ec" | some "py" | some "uy"
  | some "ve" => withComma "."
  | some "br" | some "bz" | some "cu" | some "do" | some "gt" | some "hn" | some "mx"
  | some "ni" | some "pa" | some "pe" | some "pr" | some "sv" | some "us" | some "419" => {}
  | some "cr" => withComma "\u00a0"
  | _ => withCommaFromFive "."

/-- The symbols of French. -/
def ofFrench : Option Subtag → NumberSymbols
  | some "ca" => withComma "\u00a0"
  | some "lu" | some "ma" => withComma "."
  | _ => withComma "\u202f"

/-- The symbols of Italian. -/
def ofItalian (region : Option Subtag) : NumberSymbols :=
  if region = some "ch" then { withApostrophe with minimumGrouping := 2 }
  else withCommaFromFive "."

/-- The symbols of Russian. -/
def ofRussian (region : Option Subtag) : NumberSymbols :=
  if region = some "ua" then withCommaFromFive "\u00a0" else withComma "\u00a0"

/-- The regions that write Portuguese as in Portugal. -/
def europeanPortuguese : List Subtag :=
  ["ao", "ch", "cv", "fr", "gq", "gw", "lu", "mo", "mz", "pt", "st", "tl"]

/-- The symbols of Portuguese. -/
def ofPortuguese (region : Option Subtag) : NumberSymbols :=
  if region = some "ao" then withComma "\u00a0"
  else if region.any europeanPortuguese.contains then withCommaFromFive "\u00a0"
  else withComma "."

/-- Persian digits with marks of direction on both sides of their signs. -/
def persianWithMarks : NumberSymbols :=
  { persian with minus := "\u200e-\u200e", plus := "\u200e+\u200e" }

/-- The symbols of other languages, in groups that share them; languages with
the default symbols are left out. -/
def languageGroups : List (List String × NumberSymbols) :=
  [(["az", "bs", "ca", "da", "el", "fy", "gl", "id", "is", "jv", "ku", "lb", "lo", "mk",
      "nl", "ro", "rw", "sc", "sr", "su", "tr", "vi", "wo", "ast", "dsb", "hsb", "kgp", "lij",
      "nds", "pms", "scn", "vmw", "yrl", "bs-cyrl", "sr-latn"], withComma "."),
    (["af", "br", "cs", "cv", "kk", "ky", "oc", "sk", "tg", "tk", "tt", "uk", "uz", "blo",
      "bua", "kea", "prg", "sah", "szl", "uz-cyrl"], withComma "\u00a0"),
    (["eo", "ht", "rm", "vec"], withComma "\u202f"),
    (["lmo"], withComma "'"),
    (["be", "bg", "hu", "hy", "ie", "ka", "lv", "pl", "sq"], withCommaFromFive "\u00a0"),
    (["ia"], withCommaFromFive "."),
    (["et"], { withCommaFromFive "\u00a0" with minus := "\u2212" }),
    (["sl"], { withCommaFromFive "." with minus := "\u2212" }),
    (["eu", "fo", "hr"], { withComma "." with minus := "\u2212" }),
    (["fi", "lt", "nb", "nn", "no", "sv", "ksh"],
      { withComma "\u00a0" with minus := "\u2212" }),
    (["ba", "xh", "tyv"], { group := "\u00a0" }),
    (["tn"], withApostrophe),
    (["ee"], { minimumGrouping := 3 }),
    (["he", "ur"], { minus := "\u200e-", plus := "\u200e+" }),
    (["gu", "hi", "ml", "or", "pa", "ta", "te", "brx", "kok", "kxv", "xnr", "hi-latn",
      "kok-latn", "kxv-deva", "kxv-orya", "kxv-telu"], indian),
    (["as", "bn"], { indian with numerals := .onFrom '\u09e6' }),
    (["mr", "ne", "sa"], { indian with numerals := .onFrom '\u0966' }),
    (["bgc", "bho", "raj"], { numerals := .onFrom '\u0966' }),
    (["mni"], { numerals := .onFrom '\u09e6' }),
    (["my"], { numerals := .onFrom '\u1040' }),
    (["sat"], { numerals := .onFrom '\u1c50' }),
    (["nqo"], { group := "\u060c", numerals := .onFrom '\u07c0' }),
    (["ks", "ps"], persianWithMarks),
    (["ckb"], { arabic with minus := "\u200f-", plus := "\u200f+" }),
    (["sd"], { arabic with decimal := "." }),
    (["ff-adlm"], { group := "\u2e41", numerals := .onFrom (Char.ofNat 0x1E950) })]

/-- The symbols of other languages in the regions where they are not as usual. -/
def regionGroups : List (List String × NumberSymbols) :=
  [(["ms-bn", "ms-id", "qu-bo", "sw-cd"], withComma "."), (["ta-my", "ta-sg"], {}),
    (["ur-in"], persianWithMarks)]

/-- The symbols of other languages beside the digits of a system for which they
are not as usual. -/
def systemGroups : List (List String × NumberSymbols) :=
  [(["ckb-latn"], { plus := "\u200e+" }), (["km-khmr"], withComma "."),
    (["ks-latn"], { group := "\u060c" }),
    (["ps-latn"], { withComma "." with minus := "\u200e\u2212", plus := "\u200e+" }),
    (["sd-latn", "te-telu"], {}), (["ug-arabext", "ur-arabext"], persianWithMarks),
    (["ur-latn"], { minus := "\u200e-", plus := "\u200e+" })]

/-- The symbols of a name in a list of groups. -/
def ofGroups? (groups : List (List String × NumberSymbols)) (name : String) :
    Option NumberSymbols :=
  (groups.find? fun group => group.1.contains name).map Prod.snd

/-- The symbols of another language.  The system comes before the region, and
the region before what is usual. -/
def ofOther (name : String) (region system : Option Subtag) : NumberSymbols :=
  let beside := system.bind fun system => ofGroups? systemGroups (name ++ "-" ++ system)
  let regional := region.bind fun region => ofGroups? regionGroups (name ++ "-" ++ region)
  (beside <|> regional <|> ofGroups? languageGroups name).getD {}

/-- The symbols of the language of a name in a region, beside the digits of a
system. -/
def ofLanguage (name : String) (region system : Option Subtag) : NumberSymbols :=
  match name with
  | "ar" => ofArabic region system
  | "de" => ofGerman region
  | "en" => ofEnglish region
  | "es" => ofSpanish region
  | "fa" => ofPersian system
  | "fr" => ofFrench region
  | "it" => ofItalian region
  | "pt" => ofPortuguese region
  | "ru" => ofRussian region
  | _ => ofOther name region system

/-- The symbols of a locale.  Without locale data they are the default ones. -/
def ofLocale (tag : LocaleTag) : NumberSymbols :=
  let system := tag.keywordWord? "nu"
  let symbols := match tag.dataName? with
    | some name => ofLanguage name tag.base.region system
    | none => {}
  { symbols with numerals := (system.bind Numerals.ofSubtag?).getD symbols.numerals }

end NumberSymbols

end IcuMessage
