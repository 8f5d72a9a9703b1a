import IcuMessage.Calendar.English
import IcuMessage.Calendar.French
import IcuMessage.Calendar.German
import IcuMessage.Calendar.Japanese
import IcuMessage.Calendar.Neutral
import IcuMessage.Locale.Coverage

/-!
# Calendar data of locales

A language and a region choose the data.  Languages with locale data, but
without calendar data of their own, write dates as in English.
-/

namespace IcuMessage

/-- The calendar data of a locale. -/
def CalendarData.ofLocale (tag : LocaleTag) : CalendarData :=
  match tag.dataName? with
  | none => neutral
  | some "fr" => ofFrench tag.base.region
  | some "ht" => french
  | some "de" => ofGerman tag.base.region
  | some "ja" => japanese
  | some "en" => ofEnglish tag.base.region
  | some _ => english

end IcuMessage
