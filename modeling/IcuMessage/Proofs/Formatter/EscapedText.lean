import IcuMessage.Proofs.Evaluation.Gathering
import IcuMessage.Proofs.Formatter.Construction
import IcuMessage.Proofs.Pattern.Lookalikes
import IcuMessage.Proofs.Pattern.UnbrokenText

/-!
# Escaped text

Escaped text is always accepted, and parses as one literal, or as nothing if there is no
text.  The literal is the text that was escaped, and formatters give that text, exactly if
no part of it is mistaken for the marker of an escaped character
(`escaped_text_reads_back_iff`).
-/

namespace IcuMessage

/-- What the literal of escaped text holds. -/
def readBack (text : String) : String :=
  String.ofList (unmask (quotesIn (text.toList.flatMap escapeCharacter))
    (masked 0 (text.toList.flatMap escapeCharacter)))

theorem toList_escape (text : String) :
    (escape text).toList = text.toList.flatMap escapeCharacter := by
  rw [escape, String.toList_ofList]

/-- Escaped text always parses, to one literal or to nothing. -/
theorem parse_escape
    (ignoreTags : Bool)
    (text : String) :
    parse ignoreTags (escape text) = .ok (Message.ofText (readBack text)) := by
  have plain : NoNotation (Masked.ofPattern (escape text).toList).text := by
    rw [toList_escape]
    exact fun _ member => opensQuote_of_mem_masked member
  rw [parse_of_noNotation ignoreTags plain, toList_escape]
  rfl

/-- Text reads back as itself exactly if nothing in it is mistaken for a marker. -/
theorem readBack_eq_self_iff (text : String) :
    readBack text = text ↔ Unmistaken (text.toList.countP isEscaped) text.toList := by
  have held : Quotes (quotesIn (text.toList.flatMap escapeCharacter)) 0
      (text.toList.flatMap escapeCharacter) :=
    List.prefix_refl _
  have escapes : ∀ quote ∈ quotesIn (text.toList.flatMap escapeCharacter),
      ∃ first rest, quote = first :: rest ∧ isEscaped first = true := by
    intro quote member
    rw [quotesIn_escaped_eq_map, List.mem_map] at member
    rcases member with
      ⟨character, kept, rfl⟩
    exact ⟨character, [], rfl, (List.mem_filter.mp kept).2⟩
  rw [← length_quotesIn_escaped, readBack, ← String.toList_inj, String.toList_ofList]
  exact ⟨unmistaken_of_unmask escapes held, fun unmistaken => unmask_of_unmistaken unmistaken held⟩

/-- Text without the marker character reads back, and so does text of which nothing is
escaped. -/
theorem readBack_eq_self
    {text : String}
    (clear : markerCharacter ∉ text.toList ∨
      ∀ character ∈ text.toList, isEscaped character = false) :
    readBack text = text := by
  rw [readBack_eq_self_iff]
  rcases clear with unmarked | plain
  · exact unmistaken_of_not_mem unmarked _
  · have none : text.toList.countP isEscaped = 0 := by
      rw [List.countP_eq_zero]
      intro character member
      simp [plain character member]
    rw [none]
    exact unmistaken_of_plain plain

namespace Message

theorem validate_ofText
    (sheet : StyleSheet)
    (memo : StyleMemo)
    (text : String) :
    (ofText text).validate sheet memo = .ok memo := by
  rw [ofText]
  split <;> rfl

/-- A message of text formats to its text. -/
theorem outcome_parts_ofText
    (environment : Environment)
    (text : String) :
    ((ofText text).parts environment).outcome.map writeParts = .ok text := by
  rw [ofText]
  split
  case isTrue empty =>
    rw [empty]
    rfl
  case isFalse filled =>
    rw [parts, outcome_partsIn, gatherIn_literal, gatherIn_nil, Gathered.addText, if_neg filled]
    simp [Except.map, Gathered.toList, writeParts, Part.write, Gathered.empty]

end Message

namespace Formatter

/-- The text of a message is that of its parts. -/
theorem outcome_format
    (formatter : Formatter)
    (values : Bindings) :
    (formatter.format values).outcome =
      (formatter.message.parts (formatter.environment values)).outcome.map writeParts := by
  rw [format, formatToParts, Traced.outcome_bind]
  cases (formatter.message.parts (formatter.environment values)).outcome <;> rfl

/-- A formatter of a pattern that stands for a text is built, and gives that text. -/
theorem outcome_create_format_of_parse
    {settings : FormatterSettings}
    {pattern text : String}
    (parsed : parse settings.ignoreTags pattern = .ok (Message.ofText text))
    (locales : List String)
    (sheet : StyleSheet)
    (values : Bindings) :
    ((create (.pattern pattern) locales sheet settings).outcome >>= fun formatter =>
      (formatter.format values).outcome) = .ok text := by
  rcases settings.provider.exists_outcome_negotiate locales with
    ⟨locale, settled⟩
  rw [outcome_create settled]
  simp only [Source.message, parsed, ok_bind, Message.validate_ofText, outcome_format,
    Message.outcome_parts_ofText]

end Formatter

/-- Escaped text is always accepted, and is read as some text, whether tags are ignored or
not.  Every formatter of the printed literal gives that text.  It is the text that was
escaped exactly if nothing in it is mistaken for a marker, where there is a section for
each of the escaped characters. -/
theorem escaped_text_reads_back_iff (text : String) :
    ∃ restored,
      (∀ ignoreTags, parse ignoreTags (escape text) = .ok (Message.ofText restored)) ∧
        (∀ (locales : List String) (sheet : StyleSheet) (settings : FormatterSettings)
            (values : Bindings),
          ((Formatter.create (.pattern (Message.print [.literal text])) locales sheet
              settings).outcome >>= fun formatter =>
            (formatter.format values).outcome) = .ok restored) ∧
        (restored = text ↔ Unmistaken (text.toList.countP isEscaped) text.toList) := by
  refine ⟨readBack text, fun ignoreTags => parse_escape ignoreTags text, ?_,
    readBack_eq_self_iff text⟩
  intro locales sheet settings values
  have printed : Message.print [.literal text] = escape text := by
    simp [Message.print, Node.print]
  rw [printed]
  exact Formatter.outcome_create_format_of_parse (parse_escape settings.ignoreTags text) locales
    sheet values

/-- An apostrophe behind which its own marker seems to stand: it is read twice. -/
theorem lookalike_is_mistaken :
    escape "'_\uFDDF_0_" = "''_\uFDDF_0_" ∧
      parse false (escape "'_\uFDDF_0_") = .ok [.literal "''"] ∧
        parse false (escape "'_\uFDDF_0_") ≠ .ok [.literal "'_\uFDDF_0_"] := by
  have read : parse false (escape "'_\uFDDF_0_") = .ok [.literal "''"] := by
    decide +kernel
  refine ⟨by decide +kernel, read, ?_⟩
  rw [read]
  decide +kernel

end IcuMessage
