import IcuMessage.Message.Printer
import IcuMessage.Pattern.Parser
import IcuMessage.Proofs.Text.Integers

/-!
# Headers of printed arguments

An argument is printed with a blank behind the first comma and none before it.
Its header is read off such a text: the name, the kind, and whatever stands
behind the second comma.
-/

namespace IcuMessage

/-- A name of an argument: word characters, at least one. -/
def IsName (name : List Char) : Prop :=
  name ≠ [] ∧ ∀ character ∈ name, Text.isWordCharacter character = true

instance (name : List Char) : Decidable (IsName name) :=
  @instDecidableAnd _ _ _ (List.decidableBAll _ name)

/-- A text that neither nests nor quotes. -/
def IsBare (text : List Char) : Prop :=
  ∀ character ∈ text, character ≠ '{' ∧ character ≠ '}' ∧ character ≠ '\''

instance (text : List Char) : Decidable (IsBare text) :=
  List.decidableBAll _ text

namespace IsBare

theorem append
    {front back : List Char}
    (first : IsBare front)
    (second : IsBare back) :
    IsBare (front ++ back) :=
  List.forall_mem_append.mpr ⟨first, second⟩

theorem cons
    {character : Char}
    (other : character ≠ '{' ∧ character ≠ '}' ∧ character ≠ '\'')
    {rest : List Char}
    (behind : IsBare rest) :
    IsBare (character :: rest) :=
  List.forall_mem_cons.mpr ⟨other, behind⟩

theorem nil : IsBare [] := by
  intro character member
  cases member

theorem noBrace
    {text : List Char}
    (bare : IsBare text) :
    '{' ∉ text ∧ '}' ∉ text :=
  ⟨fun member => (bare _ member).1 rfl, fun member => (bare _ member).2.1 rfl⟩

theorem noApostrophe
    {text : List Char}
    (bare : IsBare text) :
    '\'' ∉ text :=
  fun member => (bare _ member).2.2 rfl

end IsBare

/-- A name holds no brace and no apostrophe. -/
theorem IsName.isBare
    {name : List Char}
    (named : IsName name) :
    IsBare name := by
  intro character member
  have word := named.2 character member
  refine ⟨?_, ?_, ?_⟩ <;>
    · rintro rfl
      exact absurd word (by decide)

namespace Header

variable {name word : List Char}

theorem trimStart_name
    (named : IsName name)
    (rest : List Char) :
    Text.trimStart (name ++ rest) = name ++ rest :=
  Text.trimStart_append named.1
    (fun character member => Text.isBlank_of_isWordCharacter (named.2 character member)) rest

theorem trimStart_comma (rest : List Char) : Text.trimStart (',' :: rest) = ',' :: rest :=
  Text.trimStart_other (by decide) rest

theorem span_name
    (named : IsName name)
    (rest : List Char) :
    (name ++ ',' :: rest).span Text.isWordCharacter = (name, ',' :: rest) :=
  Text.span_append_cons named.2 (by decide)

/-- A name alone is the header of a plain placeholder. -/
theorem read?_bare (named : IsName name) : read? name = some (.bare name) := by
  have start := trimStart_name named []
  rw [List.append_nil] at start
  have spanned := Text.span_eq_self named.2
  rcases named with
    ⟨filled, _⟩
  cases name with
  | nil => exact absurd rfl filled
  | cons first more => simp only [read?, start, spanned, Text.trimStart_nil]

/-- A name and a word are the header of a placeholder with a category. -/
theorem read?_kind
    (named : IsName name)
    (kinded : IsName word) :
    ∃ offset, read? (name ++ ',' :: ' ' :: word) = some (.kind name word offset) := by
  have start := trimStart_name named (',' :: ' ' :: word)
  have spanned := span_name named (' ' :: word)
  have blank : Text.trimStart (' ' :: word) = word := by
    have kindStart := trimStart_name kinded []
    rw [List.append_nil] at kindStart
    rw [Text.trimStart_blank (by decide), kindStart]
  have kindSpanned := Text.span_eq_self kinded.2
  rcases named with
    ⟨filled, _⟩
  rcases kinded with
    ⟨kindFilled, _⟩
  cases name with
  | nil => exact absurd rfl filled
  | cons first more =>
      cases word with
      | nil => exact absurd rfl kindFilled
      | cons kindFirst kindMore =>
          simp only [read?, start, spanned, trimStart_comma, blank, kindSpanned,
            Text.trimStart_nil]
          exact ⟨_, rfl⟩

/-- A name, a word and a further comma are a header with whatever follows. -/
theorem read?_openEnded
    (named : IsName name)
    (kinded : IsName word)
    (rest : List Char) :
    ∃ offset, read? (name ++ ',' :: ' ' :: (word ++ ',' :: rest)) =
      some (.openEnded name word offset rest) := by
  have start := trimStart_name named (',' :: ' ' :: (word ++ ',' :: rest))
  have spanned := span_name named (' ' :: (word ++ ',' :: rest))
  have blank : Text.trimStart (' ' :: (word ++ ',' :: rest)) = word ++ ',' :: rest := by
    rw [Text.trimStart_blank (by decide), trimStart_name kinded]
  have kindSpanned := span_name kinded rest
  rcases named with
    ⟨filled, _⟩
  rcases kinded with
    ⟨kindFilled, _⟩
  cases name with
  | nil => exact absurd rfl filled
  | cons first more =>
      cases word with
      | nil => exact absurd rfl kindFilled
      | cons kindFirst kindMore =>
          simp only [read?, start, spanned, trimStart_comma, blank, kindSpanned]
          exact ⟨_, rfl⟩

end Header

theorem isName_category (category : Category) : IsName category.word.toList := by
  cases category <;> decide

theorem isName_pluralRule (rule : PluralRule) : IsName rule.word.toList := by
  cases rule <;> decide

theorem isName_select : IsName "select".toList := by
  decide

@[simp]
theorem PluralRule.ofKind?_word (rule : PluralRule) :
    PluralRule.ofKind? rule.word.toList = some rule := by
  cases rule <;> decide

end IcuMessage
