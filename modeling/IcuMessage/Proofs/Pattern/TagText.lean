import IcuMessage.Pattern.Masking
import IcuMessage.Pattern.TagTree
import IcuMessage.Proofs.Text.Runs

/-!
# The text of tags

A tag is read off its text and off no other text, whatever follows
(`Tag.read?_eq_some_iff`).
-/

namespace IcuMessage

/-- A name of a tag: an ASCII letter, and then word characters and hyphens. -/
def IsTagName : List Char → Prop
  | [] => False
  | first :: more =>
      first.isAlpha = true ∧ ∀ character ∈ more, Tag.isNameCharacter character = true

instance : (name : List Char) → Decidable (IsTagName name)
  | [] => isFalse id
  | _ :: more => @instDecidableAnd _ _ _ (List.decidableBAll _ more)

namespace Tag

/-- A tag as it is written. -/
def source (tag : Tag) : List Char :=
  if tag.isClosing then '<' :: '/' :: (tag.name ++ ['>']) else '<' :: (tag.name ++ ['>'])

@[simp]
theorem length_source (tag : Tag) : tag.source.length = tag.length := by
  rcases tag with
    ⟨isClosing, name⟩
  cases isClosing <;> simp [source, length]

/-- Every character of a tag name may stand in a tag name. -/
theorem isNameCharacter_of_mem
    {name : List Char}
    (named : IsTagName name)
    {character : Char}
    (member : character ∈ name) :
    isNameCharacter character = true := by
  cases name with
  | nil => cases member
  | cons first more =>
      rcases named with
        ⟨letter, others⟩
      rcases List.mem_cons.mp member with rfl | later
      · have small : character.toNat < 0x80 := by
          change (decide ('A'.val ≤ character.val ∧ character.val ≤ 'Z'.val) ||
            ('a'.val ≤ character.val && character.val ≤ 'z'.val)) = true at letter
          simp only [Bool.or_eq_true, Bool.and_eq_true, decide_eq_true_eq,
            UInt32.le_iff_toNat_le] at letter
          have : character.toNat = character.val.toNat := rfl
          rcases letter with ⟨_, upper⟩ | ⟨_, upper⟩
          · have : character.val.toNat ≤ 90 := by simpa using upper
            omega
          · have : character.val.toNat ≤ 122 := by simpa using upper
            omega
        simp [isNameCharacter, Text.isWordCharacter, small, Char.isAlphanum, letter]
      · exact others character later

/-- The name of a tag is read up to the bracket that closes the tag. -/
theorem name?_eq_some_iff
    {text name : List Char} :
    name? text = some name ↔ IsTagName name ∧ ∃ rest, text = name ++ '>' :: rest := by
  constructor
  · intro read
    cases text with
    | nil => cases read
    | cons first rest =>
        rw [name?] at read
        split at read
        case isFalse => cases read
        case isTrue letter =>
          split at read
          case h_2 => cases read
          case h_1 more behind spanned =>
            cases read
            rcases Text.span_spec spanned with
              ⟨rfl, others⟩
            exact ⟨⟨letter, others⟩, behind, rfl⟩
  · rintro ⟨named, rest, rfl⟩
    cases name with
    | nil => exact named.elim
    | cons first more =>
        rcases named with
          ⟨letter, others⟩
        rw [List.cons_append, name?, if_pos letter, Text.span_append_cons others (by decide)]
        rfl

/-- A tag is read off a text that starts with it. -/
theorem read?_eq_some_iff
    {text : List Char}
    {tag : Tag} :
    read? text = some tag ↔ IsTagName tag.name ∧ ∃ rest, text = tag.source ++ rest := by
  constructor
  · intro found
    unfold read? at found
    split at found
    case h_1 rest =>
      rcases Option.map_eq_some_iff.mp found with
        ⟨name, read, rfl⟩
      rcases name?_eq_some_iff.mp read with
        ⟨named, behind, rfl⟩
      exact ⟨named, behind, by simp [source]⟩
    case h_2 rest _ =>
      rcases Option.map_eq_some_iff.mp found with
        ⟨name, read, rfl⟩
      rcases name?_eq_some_iff.mp read with
        ⟨named, behind, rfl⟩
      exact ⟨named, behind, by simp [source]⟩
    case h_3 => cases found
  · rcases tag with
      ⟨isClosing, name⟩
    rintro ⟨named, rest, rfl⟩
    have read := name?_eq_some_iff.mpr ⟨named, rest, rfl⟩
    cases isClosing with
    | true => simp [source, read?, read]
    | false =>
        cases name with
        | nil => exact named.elim
        | cons first more =>
            have letter : first ≠ '/' := by
              rintro rfl
              exact absurd named.1 (by decide)
            simp only [source, Bool.false_eq_true, if_false, List.cons_append,
              List.append_assoc, List.nil_append] at read ⊢
            rw [read?.eq_def]
            simp [letter, read]

theorem mem_source
    {tag : Tag}
    {character : Char}
    (member : character ∈ tag.source) :
    character = '<' ∨ character = '/' ∨ character ∈ tag.name ∨ character = '>' := by
  rw [source] at member
  split at member <;> simp at member <;> tauto

/-- A character that is neither a bracket, a slash nor part of names is in no tag. -/
theorem not_mem_source
    {tag : Tag}
    (named : IsTagName tag.name)
    {character : Char}
    (noBracket : character ≠ '<' ∧ character ≠ '/' ∧ character ≠ '>')
    (noName : isNameCharacter character = false) :
    character ∉ tag.source := by
  intro member
  rcases noBracket with
    ⟨noLess, noSlash, noGreater⟩
  rcases mem_source member with less | slash | inName | greater
  · exact noLess less
  · exact noSlash slash
  · have inside := isNameCharacter_of_mem named inName
    rw [noName] at inside
    cases inside
  · exact noGreater greater

/-- The marker character is in no tag. -/
theorem markerCharacter_not_mem_source
    {tag : Tag}
    (named : IsTagName tag.name) :
    markerCharacter ∉ tag.source := by
  refine not_mem_source named (by decide) ?_
  rw [isNameCharacter, markerCharacter, Text.isWordCharacter_noncharacter]
  decide

end Tag

end IcuMessage
