import IcuMessage.Proofs.Message.Printable
import IcuMessage.Proofs.Pattern.Reading
import IcuMessage.Proofs.Pattern.Unmasking

/-!
# Keys, offsets and styles of printed arguments

What is printed between the braces of an argument reads back: the offset of a
plural, the key of each option, and the style of a placeholder.
-/

namespace IcuMessage

theorem isBare_writeInt64 (value : Int64) : IsBare (Text.writeInt64 value) := by
  intro character member
  rcases Text.mem_writeInt64 member with rfl | digit
  · decide
  · refine ⟨?_, ?_, ?_⟩ <;>
      · rintro rfl
        exact absurd digit (by decide)

namespace PluralKey

/-- A key reads back from its text. -/
theorem read_write (key : PluralKey) : read key.write = .ok key := by
  cases key with
  | category kind => exact read_write_category kind
  | exact value =>
      have trimmed : Text.trim (Text.writeInt64 value) = Text.writeInt64 value :=
        Text.trim_eq_self fun _ member => Text.isBlank_of_mem_writeInt64 member
      rw [read, write, String.toList_ofList]
      simp only [trimmed, Text.readInt64?_writeInt64]

/-- Different keys have different texts. -/
theorem write_injective
    {left right : PluralKey}
    (same : left.write = right.write) :
    left = right := by
  have read := congrArg PluralKey.read same
  rw [read_write, read_write] at read
  exact Except.ok.inj read

theorem isKeyText_category (kind : PluralCategory) : IsKeyText kind.word.toList := by
  cases kind <;> decide

/-- The text of every plural key can be the key of an option. -/
theorem isKeyText_write (key : PluralKey) : IsKeyText key.write.toList := by
  cases key with
  | category kind => exact isKeyText_category kind
  | exact value =>
      rw [write, String.toList_ofList]
      constructor
      · exact List.cons_ne_nil _ _
      · intro character member
        rcases List.mem_cons.mp member with rfl | inNumber
        · decide
        · rcases isBare_writeInt64 value character inNumber with
            ⟨noOpening, noClosing, noApostrophe⟩
          have unmarked : character ≠ markerCharacter := by
            rintro rfl
            exact absurd (Text.mem_writeInt64 inNumber) (by decide)
          exact ⟨Text.isBlank_of_mem_writeInt64 inNumber, noOpening, noClosing, noApostrophe,
            unmarked⟩

end PluralKey

/-- The text between the block of one option and that of the next. -/
def keyText (key : String) : List Char :=
  ' ' :: (key.toList ++ [' '])

theorem isBare_keyText
    {key : String}
    (named : IsKeyText key.toList) :
    IsBare (keyText key) := by
  have inside : IsBare key.toList := by
    intro character member
    rcases named.plain character member with
      ⟨_, noOpening, noClosing, noApostrophe, _⟩
    exact ⟨noOpening, noClosing, noApostrophe⟩
  exact .cons (by decide) (inside.append (.cons (by decide) .nil))

/-- The text before a branch denotes its key. -/
theorem isKey_keyText
    {context : ParseContext}
    {key : String}
    (named : IsKeyText key.toList) :
    context.IsKey (keyText key) key := by
  have noBlank : ∀ character ∈ key.toList, Text.isBlank character = false :=
    fun character member => (named.plain character member).1
  have trimmed : Text.trim (keyText key) = key.toList := by
    rw [keyText, Text.trim_blank (by decide), Text.trim_append_blank (by decide) noBlank]
  have unmarked : markerCharacter ∉ key.toList :=
    fun member => (named.plain _ member).2.2.2.2 rfl
  constructor
  · rw [trimmed]
    exact named.filled
  · rw [trimmed, Text.hasBlank, List.any_eq_false]
    intro character member
    simp [noBlank character member]
  · rw [trimmed, ParseContext.unmasked, unmask_eq_self _ unmarked, String.ofList_toList]

/-- The key of a plural is no offset clause. -/
theorem offsetClause?_keyText (key : PluralKey) :
    Header.offsetClause? (keyText key.write) = none := by
  cases key with
  | category kind => cases kind <;> decide
  | exact value =>
      rw [Header.offsetClause?, keyText, Text.trimStart_blank (by decide), PluralKey.write,
        String.toList_ofList, List.cons_append, Text.trimStart_other (by decide)]
      rfl

/-- The digits of an offset clause end before the first key. -/
theorem offsetClause?_digits
    {digits : List Char}
    (filled : digits ≠ [])
    (decimal : ∀ character ∈ digits, character.isDigit = true)
    (key : String) :
    Header.offsetClause?
        ([' ', 'o', 'f', 'f', 's', 'e', 't', ':'] ++ (digits ++ keyText key)) =
      some (digits, keyText key) := by
  have clause : Text.afterPrefix? ['o', 'f', 'f', 's', 'e', 't', ':']
      (['o', 'f', 'f', 's', 'e', 't', ':'] ++ (digits ++ keyText key)) =
        some (digits ++ keyText key) :=
    Text.afterPrefix?_eq_some_iff.mpr rfl
  have start : Text.trimStart (digits ++ keyText key) = digits ++ keyText key :=
    Text.trimStart_append filled
      (fun character member => Text.isBlank_of_isDigit (decimal character member)) _
  have spanned : (digits ++ keyText key).span Text.isDecimalDigit = (digits, keyText key) :=
    Text.span_append_cons
      (fun character member => Text.isDecimalDigit_of_isDigit (decimal character member))
      (by decide)
  have trimmed :
      Text.trimStart ([' ', 'o', 'f', 'f', 's', 'e', 't', ':'] ++ (digits ++ keyText key)) =
        ['o', 'f', 'f', 's', 'e', 't', ':'] ++ (digits ++ keyText key) := by
    rw [List.cons_append, Text.trimStart_blank (by decide), List.cons_append,
      Text.trimStart_other (by decide)]
  rw [Header.offsetClause?, trimmed, clause]
  simp only [start, spanned]

/-- A printed offset reads back, and the first key is left behind it. -/
theorem pluralOffset_printOffset
    {offset : Int64}
    (shifted : 0 ≤ offset.toInt)
    (key : PluralKey) :
    PluralOffset ((printOffset offset).toList ++ keyText key.write) offset
      (keyText key.write) := by
  rw [printOffset]
  split
  case isTrue zero =>
    subst zero
    exact .absent (offsetClause?_keyText key)
  case isFalse =>
    have written : Text.writeInt64 offset = Text.writeNat offset.toInt.natAbs := by
      rw [Text.writeInt64, if_neg (by omega)]
    have clause := offsetClause?_digits (Text.writeNat_ne_nil offset.toInt.natAbs)
      (fun _ member => Text.isDigit_of_mem_writeNat member) key.write
    rw [← written] at clause
    have printed : (" offset:" ++ String.ofList (Text.writeInt64 offset)).toList =
        [' ', 'o', 'f', 'f', 's', 'e', 't', ':'] ++ Text.writeInt64 offset := by
      simp
    rw [printed, List.append_assoc]
    exact .given clause (Text.readInt64?_writeInt64 offset)

theorem isBare_printOffset (offset : Int64) : IsBare (printOffset offset).toList := by
  rw [printOffset]
  split
  case isTrue => exact .nil
  case isFalse =>
    rw [String.toList_append]
    apply IsBare.append
    · decide
    · rw [String.toList_ofList]
      exact isBare_writeInt64 offset

/-- The text behind the second comma of a placeholder with a style. -/
def styleText : Style → List Char
  | .named name => ' ' :: name.toList
  | .skeleton text => ' ' :: ':' :: ':' :: text.toList

theorem printStyle_some (style : Style) :
    (printStyle (some style)).toList = ',' :: styleText style := by
  cases style <;> simp [printStyle, styleText]

theorem isBare_styleText
    {style : Style}
    (printable : style.Printable) :
    IsBare (styleText style) := by
  have bare {text : List Char} (styled : IsStyleText text) : IsBare text := by
    intro character member
    rcases styled.plain character member with
      ⟨noOpening, noClosing, noApostrophe, _⟩
    exact ⟨noOpening, noClosing, noApostrophe⟩
  cases style with
  | named name => exact .cons (by decide) (bare printable.2.2)
  | skeleton text =>
      exact .cons (by decide) (.cons (by decide) (.cons (by decide) (bare printable)))

/-- A printed style reads back. -/
theorem isStyle_styleText
    {context : ParseContext}
    {style : Style}
    (printable : style.Printable) :
    context.IsStyle (styleText style) style := by
  cases style with
  | named name =>
      rcases printable with
        ⟨filled, noColons, trimmed, plain⟩
      have unmarked : markerCharacter ∉ name.toList :=
        fun member => (plain _ member).2.2.2 rfl
      have restored : unmask context.quotes (Text.trim (styleText (.named name))) =
          name.toList := by
        rw [styleText, Text.trim_blank (by decide), trimmed, unmask_eq_self _ unmarked]
      have denotes : context.IsStyle (styleText (.named name))
          (.named (context.unmasked (Text.trim (styleText (.named name))))) := by
        constructor
        · rw [restored]
          intro empty
          exact filled (String.toList_eq_nil_iff.mp empty)
        · rw [restored, Option.eq_none_iff_forall_ne_some]
          intro rest found
          exact noColons ⟨rest, (Text.afterPrefix?_eq_some_iff.mp found).symm⟩
      rwa [ParseContext.unmasked, restored, String.ofList_toList] at denotes
  | skeleton text =>
      rcases printable with
        ⟨trimmed, plain⟩
      have unmarked : markerCharacter ∉ ':' :: ':' :: text.toList := by
        simp only [List.mem_cons, not_or]
        exact ⟨by decide, by decide, fun member => (plain _ member).2.2.2 rfl⟩
      have restored : unmask context.quotes (Text.trim (styleText (.skeleton text))) =
          [':', ':'] ++ text.toList := by
        rw [styleText, Text.trim_blank (by decide),
          Text.trim_cons (by decide) (Text.trim_cons (by decide) trimmed),
          unmask_eq_self _ unmarked]
        rfl
      have denotes : context.IsStyle (styleText (.skeleton text))
          (.skeleton (String.ofList (Text.trim text.toList))) := by
        constructor
        rw [restored]
        exact Text.afterPrefix?_eq_some_iff.mpr rfl
      rwa [trimmed, String.ofList_toList] at denotes

end IcuMessage
