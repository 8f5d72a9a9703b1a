import IcuMessage.Locale.Tag

/-!
# Coverage of locales

The languages for which there is locale data, and the names under which the
tables of the locales know them.  A tag has to name one of the scripts that the
language is covered in, or to leave the script open.  Then the usual script of
the language counts, or that of the region if it writes the language in another
script.  Variants and extensions do not matter.

A language in its usual script goes by its own subtag.  Another script stands
behind it, so that the tables can tell the two apart.
-/

namespace IcuMessage

/-- The languages that are covered in their usual script, with that script and
then all others that they are covered in. -/
def coveredLanguages : List (Subtag × List Subtag) :=
  [("af", ["latn"]), ("ak", ["latn"]), ("am", ["ethi"]), ("ar", ["arab"]), ("as", ["beng"]),
    ("az", ["latn"]), ("ba", ["cyrl"]), ("be", ["cyrl"]), ("bg", ["cyrl"]), ("bn", ["beng"]),
    ("br", ["latn"]), ("bs", ["latn", "cyrl"]), ("ca", ["latn"]), ("cs", ["latn"]),
    ("cv", ["cyrl"]), ("cy", ["latn"]), ("da", ["latn"]), ("de", ["latn"]), ("ee", ["latn"]),
    ("el", ["grek"]), ("en", ["latn"]), ("eo", ["latn"]), ("es", ["latn"]), ("et", ["latn"]),
    ("eu", ["latn"]), ("fa", ["arab"]), ("fi", ["latn"]), ("fo", ["latn"]), ("fr", ["latn"]),
    ("fy", ["latn"]), ("ga", ["latn"]), ("gd", ["latn"]), ("gl", ["latn"]), ("gu", ["gujr"]),
    ("ha", ["latn"]), ("he", ["hebr"]), ("hi", ["deva", "latn"]), ("hr", ["latn"]),
    ("ht", ["latn"]), ("hu", ["latn"]), ("hy", ["armn"]), ("ia", ["latn"]), ("id", ["latn"]),
    ("ie", ["latn"]), ("ig", ["latn"]), ("ii", ["yiii"]), ("is", ["latn"]), ("it", ["latn"]),
    ("ja", ["jpan"]), ("jv", ["latn"]), ("ka", ["geor"]), ("ki", ["latn"]),
    ("kk", ["cyrl", "arab"]), ("km", ["khmr"]), ("kn", ["knda"]), ("ko", ["kore"]),
    ("ks", ["arab", "deva"]), ("ku", ["latn"]), ("ky", ["cyrl"]), ("lb", ["latn"]),
    ("lo", ["laoo"]), ("lt", ["latn"]), ("lv", ["latn"]), ("mi", ["latn"]), ("mk", ["cyrl"]),
    ("ml", ["mlym"]), ("mn", ["cyrl"]), ("mr", ["deva"]), ("ms", ["latn"]), ("mt", ["latn"]),
    ("my", ["mymr"]), ("nb", ["latn"]), ("ne", ["deva"]), ("nl", ["latn"]), ("nn", ["latn"]),
    ("no", ["latn"]), ("oc", ["latn"]), ("om", ["latn"]), ("or", ["orya"]), ("pa", ["guru"]),
    ("pl", ["latn"]), ("ps", ["arab"]), ("pt", ["latn"]), ("qu", ["latn"]), ("rm", ["latn"]),
    ("ro", ["latn"]), ("ru", ["cyrl"]), ("rw", ["latn"]), ("sa", ["deva"]), ("sc", ["latn"]),
    ("sd", ["arab", "deva"]), ("si", ["sinh"]), ("sk", ["latn"]), ("sl", ["latn"]),
    ("so", ["latn"]), ("sq", ["latn"]), ("sr", ["cyrl", "latn"]), ("st", ["latn"]),
    ("su", ["latn"]), ("sv", ["latn"]), ("sw", ["latn"]), ("ta", ["taml"]), ("te", ["telu"]),
    ("tg", ["cyrl"]), ("th", ["thai"]), ("ti", ["ethi"]), ("tk", ["latn"]), ("tn", ["latn"]),
    ("to", ["latn"]), ("tr", ["latn"]), ("tt", ["cyrl"]), ("ug", ["arab"]), ("uk", ["cyrl"]),
    ("ur", ["arab"]), ("uz", ["latn", "cyrl"]), ("vi", ["latn"]), ("wo", ["latn"]),
    ("xh", ["latn"]), ("yo", ["latn"]), ("za", ["latn"]), ("zh", ["hans", "hant"]),
    ("zu", ["latn"]), ("ady", ["cyrl"]), ("ast", ["latn"]), ("bgc", ["deva"]), ("bho", ["deva"]),
    ("blo", ["latn"]), ("brx", ["deva"]), ("bua", ["cyrl"]), ("ceb", ["latn"]), ("chr", ["cher"]),
    ("ckb", ["arab"]), ("cop", ["copt"]), ("csw", ["cans"]), ("doi", ["deva"]), ("dsb", ["latn"]),
    ("fil", ["latn"]), ("gaa", ["latn"]), ("hsb", ["latn"]), ("kbd", ["cyrl"]), ("kea", ["latn"]),
    ("kek", ["latn"]), ("kgp", ["latn"]), ("kok", ["deva", "latn"]), ("ksh", ["latn"]),
    ("kxv", ["latn", "deva", "telu", "orya"]), ("lij", ["latn"]), ("lld", ["latn"]),
    ("lmo", ["latn"]), ("mai", ["deva"]), ("mni", ["beng"]), ("nds", ["latn"]), ("nqo", ["nkoo"]),
    ("nso", ["latn"]), ("pcm", ["latn"]), ("pms", ["latn"]), ("prg", ["latn"]), ("quc", ["latn"]),
    ("raj", ["deva"]), ("sah", ["cyrl"]), ("sat", ["olck"]), ("scn", ["latn"]), ("shn", ["mymr"]),
    ("syr", ["syrc"]), ("szl", ["latn"]), ("tyv", ["cyrl"]), ("vec", ["latn"]), ("vmw", ["latn"]),
    ("xnr", ["deva"]), ("yrl", ["latn"]), ("yue", ["hant", "hans"])]

/-- The languages that are covered, but not in their usual script. -/
def unusuallyCoveredLanguages : List (Subtag × List Subtag) :=
  [("ff", ["adlm"])]

/-- The regions that write a language in another than its usual script. -/
def regionalScripts : List ((Subtag × Subtag) × Subtag) :=
  [(("az", "iq"), "arab"), (("az", "ir"), "arab"), (("az", "ru"), "cyrl"),
    (("ha", "cm"), "arab"), (("ha", "sd"), "arab"), (("kk", "af"), "arab"),
    (("kk", "cn"), "arab"), (("kk", "ir"), "arab"), (("kk", "mn"), "arab"),
    (("ku", "am"), "cyrl"), (("ku", "az"), "cyrl"), (("ku", "ge"), "cyrl"),
    (("ku", "iq"), "arab"), (("ku", "ir"), "arab"), (("ku", "lb"), "arab"),
    (("ku", "tm"), "cyrl"), (("ky", "cn"), "arab"), (("ky", "tr"), "latn"),
    (("mn", "cn"), "mong"), (("ms", "cc"), "arab"), (("pa", "pk"), "arab"),
    (("sd", "in"), "deva"), (("sr", "me"), "latn"), (("sr", "ro"), "latn"),
    (("sr", "tr"), "latn"), (("tg", "pk"), "arab"), (("ug", "kz"), "cyrl"),
    (("ug", "mn"), "cyrl"), (("uz", "af"), "arab"), (("uz", "cn"), "cyrl"),
    (("zh", "au"), "hant"), (("zh", "bn"), "hant"), (("zh", "gb"), "hant"),
    (("zh", "gf"), "hant"), (("zh", "hk"), "hant"), (("zh", "id"), "hant"),
    (("zh", "mo"), "hant"), (("zh", "pa"), "hant"), (("zh", "pf"), "hant"),
    (("zh", "ph"), "hant"), (("zh", "sr"), "hant"), (("zh", "th"), "hant"),
    (("zh", "tw"), "hant"), (("zh", "us"), "hant"), (("zh", "vn"), "hant"),
    (("yue", "cn"), "hans")]

/-- The script of a tag that names one, or whose region has one of its own. -/
def LanguageTag.likelyScript? (tag : LanguageTag) : Option Subtag :=
  match tag.script with
  | some script => some script
  | none => tag.region.bind fun region => regionalScripts.lookup (tag.language, region)

/-- The name of a language in the tables of the locales, if it has locale data in
the script of the tag. -/
def LanguageTag.dataName? (tag : LanguageTag) : Option String :=
  let covered := coveredLanguages.lookup tag.language
  match tag.likelyScript? with
  | none => covered.map fun _ => tag.language
  | some script =>
      if covered.any fun scripts => scripts.head? == some script then some tag.language
      else if covered.any (·.contains script) ||
          (unusuallyCoveredLanguages.lookup tag.language).any (·.contains script) then
        some (tag.language ++ "-" ++ script)
      else none

/-- The name of the locale's language in the tables, if there is locale data. -/
def LocaleTag.dataName? (tag : LocaleTag) : Option String :=
  tag.base.dataName?

/-- There is locale data for a locale. -/
def LocaleTag.isCovered (tag : LocaleTag) : Bool :=
  tag.dataName?.isSome

end IcuMessage
