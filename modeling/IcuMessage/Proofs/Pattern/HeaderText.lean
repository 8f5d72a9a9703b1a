import IcuMessage.Proofs.Pattern.Headers
import IcuMessage.Proofs.Pattern.Unmasking

/-!
# The text of headers

A header is read off a text of a certain form, whatever stands behind it.  Its
name and its kind are names, and the places that its offsets speak of stand
behind a character that is in no marker: a comma, a colon or a blank.
-/

namespace IcuMessage

/-- Blanks occur in no marker. -/
theorem unmarked_of_isBlank
    {character : Char}
    (blank : Text.isBlank character = true) :
    Unmarked character := by
  constructor
  · rintro rfl
    exact absurd blank (by decide)
  · rintro rfl
    exact absurd blank (by decide)
  · exact Text.isDecimalDigit_of_isBlank blank

theorem unmarked_comma : Unmarked ',' := by
  constructor <;> decide

theorem unmarked_colon : Unmarked ':' := by
  constructor <;> decide

/-- Behind a character that is in no marker, and blanks, there stands such a character. -/
theorem exists_unmarked_of_blanks
    {separator : Char}
    (unmarked : Unmarked separator)
    {blanks : List Char}
    (blank : ∀ character ∈ blanks, Text.isBlank character = true) :
    ∃ front last, separator :: blanks = front ++ [last] ∧ Unmarked last := by
  rcases List.eq_nil_or_concat blanks with rfl | ⟨front, last, rfl⟩
  · exact ⟨[], separator, rfl, unmarked⟩
  · exact ⟨separator :: front, last, by simp, unmarked_of_isBlank (blank last (by simp))⟩

namespace Header

/-- The text that a header is read off. -/
inductive ReadOff (text : List Char) : Header → Prop where
  | bare {name : List Char}
      (named : IsName name) :
      ReadOff text (.bare name)
  | kind {name word front behind : List Char} {separator : Char}
      (named : IsName name)
      (worded : IsName word)
      (separates : Unmarked separator)
      (shape : text = (front ++ [separator]) ++ (word ++ behind)) :
      ReadOff text (.kind name word (Text.byteWidth (front ++ [separator])))
  | openEnded {name word front between rest : List Char} {separator : Char}
      (named : IsName name)
      (worded : IsName word)
      (separates : Unmarked separator)
      (shape : text = (front ++ [separator]) ++ (word ++ (between ++ ',' :: rest))) :
      ReadOff text (.openEnded name word (Text.byteWidth (front ++ [separator])) rest)

/-- A run of word characters with some character in it is a name. -/
theorem isName_of_span
    {text run rest : List Char}
    (spanned : text.span Text.isWordCharacter = (run, rest))
    (filled : run ≠ []) :
    IsName run :=
  ⟨filled, (Text.span_spec spanned).2⟩

/-- A name, a comma, and a kind behind them, with blanks between. -/
private theorem exists_front_of_kind
    {text name afterName afterComma : List Char}
    (spanned : (Text.trimStart text).span Text.isWordCharacter = (name, afterName))
    (comma : Text.trimStart afterName = ',' :: afterComma) :
    ∃ front separator,
      Unmarked separator ∧ text = (front ++ [separator]) ++ Text.trimStart afterComma := by
  rcases Text.exists_blanks_append_trimStart text with
    ⟨lead, _, textShape⟩
  rcases Text.exists_blanks_append_trimStart afterName with
    ⟨gap, _, nameShape⟩
  rcases Text.exists_blanks_append_trimStart afterComma with
    ⟨blanks, blank, commaShape⟩
  rcases exists_unmarked_of_blanks unmarked_comma blank with
    ⟨front, separator, between, separates⟩
  refine ⟨lead ++ name ++ gap ++ front, separator, separates, ?_⟩
  calc
    text = lead ++ (name ++ (gap ++ ',' :: afterComma)) := by
      rw [← comma, ← nameShape, ← (Text.span_spec spanned).1, ← textShape]
    _ = lead ++ (name ++ (gap ++ ((',' :: blanks) ++ Text.trimStart afterComma))) := by
      rw [List.cons_append, ← commaShape]
    _ = (lead ++ name ++ gap ++ front ++ [separator]) ++ Text.trimStart afterComma := by
      rw [between]
      simp

/-- A header that is read is written in the text. -/
theorem readOff_of_read?
    {text : List Char}
    {header : Header}
    (read : read? text = some header) :
    ReadOff text header := by
  rw [read?] at read
  split at read
  case h_1 => cases read
  case h_2 name afterName noName spanned =>
    have named := isName_of_span spanned (by simpa using noName)
    split at read
    case h_1 =>
      cases read
      exact .bare named
    case h_3 => cases read
    case h_2 afterComma comma =>
      rcases exists_front_of_kind spanned comma with
        ⟨front, separator, separates, textShape⟩
      have offset : Text.byteWidth text - Text.byteWidth (Text.trimStart afterComma) =
          Text.byteWidth (front ++ [separator]) := by
        rw [textShape, Text.byteWidth_append, Nat.add_sub_cancel]
      simp only [offset] at read
      split at read
      case h_1 => cases read
      case h_2 word afterKind noWord kindSpanned =>
        have worded := isName_of_span kindSpanned (by simpa using noWord)
        rw [(Text.span_spec kindSpanned).1] at textShape
        split at read
        case h_1 =>
          cases read
          exact .kind named worded separates textShape
        case h_2 rest commaBehind =>
          cases read
          rcases Text.exists_blanks_append_trimStart afterKind with
            ⟨between, _, kindShape⟩
          rw [kindShape, commaBehind] at textShape
          exact .openEnded named worded separates textShape
        case h_3 => cases read

/-- The name that a header starts with. -/
def name : Header → List Char
  | .bare name | .kind name _ _ | .openEnded name _ _ _ => name

/-- The name of every header that is read is a name. -/
theorem isName_of_read?
    {text : List Char}
    {header : Header}
    (read : read? text = some header) :
    IsName (String.ofList header.name).toList := by
  rw [String.toList_ofList]
  cases readOff_of_read? read with
  | bare named => exact named
  | kind named => exact named
  | openEnded named => exact named

/-- The text that an offset clause is read off. -/
theorem exists_front_of_offsetClause?
    {text digits rest : List Char}
    (clause : offsetClause? text = some (digits, rest)) :
    digits ≠ [] ∧ (∀ digit ∈ digits, Text.isDecimalDigit digit = true) ∧
      ∃ front separator, Unmarked separator ∧ text = (front ++ [separator]) ++ (digits ++ rest) := by
  rw [offsetClause?] at clause
  split at clause
  case h_1 => cases clause
  case h_2 afterWord behindWord =>
    split at clause
    case h_1 => cases clause
    case h_2 noDigits spanned =>
      cases clause
      rcases Text.span_spec spanned with
        ⟨digitsShape, decimal⟩
      refine ⟨by simpa using noDigits, decimal, ?_⟩
      rcases Text.exists_blanks_append_trimStart text with
        ⟨lead, _, textShape⟩
      rcases Text.exists_blanks_append_trimStart afterWord with
        ⟨blanks, blank, wordShape⟩
      rcases exists_unmarked_of_blanks unmarked_colon blank with
        ⟨front, separator, between, separates⟩
      refine ⟨lead ++ ['o', 'f', 'f', 's', 'e', 't'] ++ front, separator, separates, ?_⟩
      calc
        text = lead ++ (['o', 'f', 'f', 's', 'e', 't', ':'] ++ afterWord) := by
          rw [← Text.afterPrefix?_eq_some_iff.mp behindWord, ← textShape]
        _ = lead ++ (['o', 'f', 'f', 's', 'e', 't'] ++ ((':' :: blanks) ++ (digits ++ rest))) := by
          have behindColon : (':' :: blanks) ++ (digits ++ rest) = ':' :: afterWord := by
            rw [← digitsShape, List.cons_append, ← wordShape]
          rw [behindColon]
          rfl
        _ = lead ++ ['o', 'f', 'f', 's', 'e', 't'] ++ front ++ [separator] ++ (digits ++ rest) := by
          rw [between]
          simp

/-- An offset clause is as wide as its digits, at least. -/
theorem byteWidth_digits_le
    {text digits rest : List Char}
    (clause : offsetClause? text = some (digits, rest)) :
    Text.byteWidth digits ≤ Text.byteWidth text - Text.byteWidth rest := by
  rcases exists_front_of_offsetClause? clause with
    ⟨_, _, front, separator, _, rfl⟩
  simp only [Text.byteWidth_append]
  omega

end Header

end IcuMessage
