import IcuMessage.Pattern.Masking
import IcuMessage.Proofs.Text.Runs
import IcuMessage.Text.WordCharacter

/-!
# Unmasking text piece by piece

Unmasking goes through a text from left to right and replaces the markers in
it.  A character that occurs in no marker separates what is unmasked before it
from what is unmasked behind it, and text without the marker character stays as
it is.
-/

namespace IcuMessage

/-- The character is neither a decimal digit nor one of the others in a marker. -/
structure Unmarked (character : Char) : Prop where
  noScore : character ≠ '_'
  noMarker : character ≠ markerCharacter
  noDigit : Text.isDecimalDigit character = false

theorem unmarked_less : Unmarked '<' := by
  constructor <;> decide

theorem unmarked_greater : Unmarked '>' := by
  constructor <;> decide

@[simp]
theorem unmask_nil (quotes : List (List Char)) : unmask quotes [] = [] := rfl

/-- A character at which no marker begins is left as it is. -/
theorem unmask_cons_of_none
    {quotes : List (List Char)}
    {character : Char}
    {rest : List Char}
    (noMarker : markerDigits? (character :: rest) = none) :
    unmask quotes (character :: rest) = character :: unmask quotes rest := by
  rw [unmask, unmaskFrom, noMarker]
  rfl

/-- A marker is replaced by its meaning, and unmasking goes on behind it. -/
theorem unmask_of_marker
    {quotes : List (List Char)}
    {text digits : List Char}
    (marked : markerDigits? text = some digits) :
    unmask quotes text =
      markerMeaning quotes digits ++ unmask quotes (text.drop (digits.length + 4)) := by
  cases text with
  | nil => cases marked
  | cons character rest =>
      rw [unmask, unmaskFrom, marked]
      simp only [unmaskFrom_eq_unmask_drop, List.drop_succ_cons]

/-- A marker is the marker character between two scores, digits, and one more
score. -/
theorem markerDigits?_eq_some_iff
    {text digits : List Char} :
    markerDigits? text = some digits ↔
      digits ≠ [] ∧ (∀ digit ∈ digits, Text.isDecimalDigit digit = true) ∧
        ∃ rest, text = '_' :: markerCharacter :: '_' :: (digits ++ '_' :: rest) := by
  constructor
  · intro marked
    unfold markerDigits? at marked
    split at marked
    case h_2 => cases marked
    case h_1 middle rest =>
      split at marked
      case isFalse => cases marked
      case isTrue isMarker =>
        split at marked
        case h_2 => cases marked
        case h_1 digit more behind spanned =>
          cases marked
          rcases Text.span_spec spanned with
            ⟨rfl, decimal⟩
          exact ⟨List.cons_ne_nil _ _, decimal, behind, by rw [isMarker]⟩
  · rintro ⟨filled, decimal, rest, rfl⟩
    have spanned : (digits ++ '_' :: rest).span Text.isDecimalDigit = (digits, '_' :: rest) :=
      Text.span_append_cons decimal (by decide)
    simp only [markerDigits?, if_true, spanned]
    cases digits with
    | nil => exact absurd rfl filled
    | cons digit more => rfl

/-- Text behind a character that is in no marker does not complete a marker. -/
theorem markerDigits?_append
    {separator : Char}
    (unmarked : Unmarked separator)
    (front back : List Char) :
    markerDigits? (front ++ separator :: back) = markerDigits? front := by
  ext digits
  rw [markerDigits?_eq_some_iff, markerDigits?_eq_some_iff]
  constructor
  · rintro ⟨filled, decimal, rest, same⟩
    refine ⟨filled, decimal, ?_⟩
    -- The separator is none of the characters of the marker, so it stands behind it.
    have marked : '_' :: markerCharacter :: '_' :: (digits ++ '_' :: rest) =
        ('_' :: markerCharacter :: '_' :: (digits ++ ['_'])) ++ rest := by simp
    rw [marked, List.append_eq_append_iff] at same
    rcases same with ⟨middle, whole, _⟩ | ⟨middle, rfl, _⟩
    · cases middle with
      | nil =>
          refine ⟨[], ?_⟩
          rw [List.append_nil] at whole
          rw [← whole]
      | cons head middle =>
          have inside : separator ∈ '_' :: markerCharacter :: '_' :: (digits ++ ['_']) := by
            simp_all
          simp only [List.mem_cons, List.mem_append, List.not_mem_nil, or_false] at inside
          rcases inside with score | marker | score | digit | score
          · exact absurd score unmarked.noScore
          · exact absurd marker unmarked.noMarker
          · exact absurd score unmarked.noScore
          · exact absurd (decimal separator digit) (by simp [unmarked.noDigit])
          · exact absurd score unmarked.noScore
    · exact ⟨middle, by simp⟩
  · rintro ⟨filled, decimal, rest, rfl⟩
    exact ⟨filled, decimal, rest ++ separator :: back, by simp⟩

theorem drop_marker (digits rest : List Char) :
    ('_' :: markerCharacter :: '_' :: (digits ++ '_' :: rest)).drop (digits.length + 4) = rest := by
  simp [List.drop_append]

/-- A character that is in no marker separates what is before it from what is
behind it. -/
theorem unmask_append
    {separator : Char}
    (unmarked : Unmarked separator)
    (quotes : List (List Char))
    (front back : List Char) :
    unmask quotes (front ++ separator :: back) =
      unmask quotes front ++ separator :: unmask quotes back := by
  induction size : front.length using Nat.strongRecOn generalizing front with
  | _ size shorter =>
      subst size
      have kept := markerDigits?_append unmarked front back
      cases marked : markerDigits? front with
      | some digits =>
          rw [marked] at kept
          rw [unmask_of_marker marked, unmask_of_marker kept]
          rcases markerDigits?_eq_some_iff.mp marked with
            ⟨_, _, rest, rfl⟩
          have passed := shorter rest.length (by simp; omega) rest rfl
          rw [List.cons_append, List.cons_append, List.cons_append, List.append_assoc,
            List.cons_append, drop_marker, drop_marker, passed, List.append_assoc]
      | none =>
          rw [marked] at kept
          cases front with
          | nil => rw [List.nil_append, unmask_cons_of_none kept, unmask_nil, List.nil_append]
          | cons character rest =>
              have passed := shorter rest.length (by simp) rest rfl
              rw [List.cons_append] at kept ⊢
              rw [unmask_cons_of_none kept, unmask_cons_of_none marked, passed, List.cons_append]

/-- A text without the marker character is left as it is. -/
theorem unmask_eq_self
    (quotes : List (List Char))
    {text : List Char}
    (unmarked : markerCharacter ∉ text) :
    unmask quotes text = text := by
  induction text with
  | nil => rfl
  | cons character rest ih =>
      have noMarker : markerDigits? (character :: rest) = none := by
        rw [Option.eq_none_iff_forall_ne_some]
        intro digits marked
        rcases markerDigits?_eq_some_iff.mp marked with
          ⟨_, _, behind, same⟩
        rw [same] at unmarked
        simp at unmarked
      rw [unmask_cons_of_none noMarker, ih (fun member => unmarked (List.mem_cons_of_mem _ member))]

end IcuMessage
