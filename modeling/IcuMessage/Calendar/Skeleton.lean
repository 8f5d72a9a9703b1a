import IcuMessage.Calendar.Pattern

/-!
# Skeletons

A skeleton asks for fields, each of a kind and a width; it leaves open their
order and the text between them.  The locales have patterns for some skeletons.
Any other is written in the pattern of the skeleton closest to it, with the
widths that are asked for.

A kind that is missing weighs more than all kinds nobody asks for, one of these
more than words in the place of digits, and these more than another width.
-/

namespace IcuMessage

/-- A field that is asked for. -/
structure SkeletonField where
  /-- The letter of its kind within a date. -/
  letter : Char
  width : Nat
deriving DecidableEq, Repr

namespace SkeletonField

/-- The letter that a kind of field has within a date.  A month or a weekday on
its own has another letter. -/
def kind (letter : Char) : Char :=
  if letter = 'L' then 'M' else if letter = 'c' then 'E' else letter

/-- The field is written in words. -/
def inWords (field : SkeletonField) : Bool :=
  field.letter == 'E' || field.letter == 'G' || field.letter == 'M' && 3 ≤ field.width

/-- The widths of a weekday or an era up to three letters are the same. -/
def trueWidth (field : SkeletonField) : Nat :=
  if field.letter = 'E' ∨ field.letter = 'G' then max 3 field.width else field.width

/-- How far two fields of one kind are apart. -/
def distance (requested offered : SkeletonField) : Nat :=
  if requested.trueWidth = offered.trueWidth then 0
  else if requested.inWords = offered.inWords then 1
  else 10

@[simp] theorem distance_self (field : SkeletonField) : field.distance field = 0 := by
  simp [distance]

end SkeletonField

/-- The fields that are asked for, each kind at most once. -/
abbrev Skeleton := List SkeletonField

namespace Skeleton

/-- The fields of a pattern. -/
def ofItems (items : List PatternItem) : Skeleton :=
  items.filterMap fun
    | .field letter width => some ⟨SkeletonField.kind letter, width⟩
    | .literal _ => none

/-- The skeleton that is written as the letters of its fields. -/
def ofText (text : String) : Skeleton :=
  ofItems (PatternItem.ofText text)

/-- The field of a kind. -/
def field? (skeleton : Skeleton) (letter : Char) : Option SkeletonField :=
  skeleton.find? fun field => field.letter == letter

/-- The weight of a field that nobody asks for. -/
def extraField : Nat := 1000

/-- The weight of a field that is asked for in vain. -/
def missingField : Nat := 10000

/-- How far a skeleton is from the request. -/
def distance (requested offered : Skeleton) : Nat :=
  (requested.map fun field =>
    match offered.field? field.letter with
    | some other => field.distance other
    | none => missingField).foldl (· + ·) 0 +
  extraField * offered.countP fun field => (requested.field? field.letter).isNone

end Skeleton

/-- Give a field of a pattern the width that is asked for, if that does not turn
words into digits or digits into words. -/
def PatternItem.fit (requested : Skeleton) : PatternItem → PatternItem
  | .field letter width =>
      let own : SkeletonField := ⟨SkeletonField.kind letter, width⟩
      match requested.field? own.letter with
      | some wanted =>
          .field letter (if wanted.inWords = own.inWords then wanted.width else width)
      | none => .field letter width
  | .literal character => .literal character

/-- A pattern, and the skeleton that it is for. -/
structure DateFormat where
  skeleton : Skeleton
  pattern : List PatternItem
deriving DecidableEq, Repr

namespace DateFormat

/-- The format that is written as a skeleton and a pattern. -/
def ofTexts (texts : String × String) : DateFormat where
  skeleton := Skeleton.ofText texts.1
  pattern := PatternItem.ofText texts.2

/-- The format closest to a request; of equally close ones the first. -/
def closest? (requested : Skeleton) : List DateFormat → Option DateFormat
  | [] => none
  | format :: rest =>
      match closest? requested rest with
      | none => some format
      | some other =>
          if requested.distance other.skeleton < requested.distance format.skeleton then
            some other
          else some format

/-- Only from no formats at all there is no closest one. -/
theorem closest?_eq_none_iff {requested : Skeleton} {formats : List DateFormat} :
    closest? requested formats = none ↔ formats = [] := by
  cases formats with
  | nil => simp [closest?]
  | cons first rest =>
    rw [closest?]
    split
    · simp
    · split <;> simp

/-- The closest format is one of the formats. -/
theorem mem_of_closest?_eq_some {requested : Skeleton} {formats : List DateFormat}
    {format : DateFormat} (closest : closest? requested formats = some format) :
    format ∈ formats := by
  induction formats generalizing format with
  | nil => simp [closest?] at closest
  | cons first rest ih =>
    rw [closest?] at closest
    split at closest
    · simp_all
    · next best found =>
      split at closest
      · exact List.mem_cons_of_mem _ (ih (found.trans closest))
      · simp_all

/-- No format is closer than the closest one. -/
theorem distance_le_of_closest?_eq_some {requested : Skeleton} {formats : List DateFormat}
    {format other : DateFormat} (closest : closest? requested formats = some format)
    (member : other ∈ formats) :
    requested.distance format.skeleton ≤ requested.distance other.skeleton := by
  induction formats generalizing format with
  | nil => simp at member
  | cons first rest ih =>
    rw [closest?] at closest
    split at closest
    · next alone =>
      obtain rfl := closest?_eq_none_iff.1 alone
      simp_all
    · next best found =>
      split at closest
      · next nearer =>
        cases closest
        rcases List.mem_cons.1 member with rfl | tail
        · exact Nat.le_of_lt nearer
        · exact ih found tail
      · next farther =>
        cases closest
        rcases List.mem_cons.1 member with rfl | tail
        · exact Nat.le_refl _
        · exact Nat.le_trans (Nat.not_lt.1 farther) (ih found tail)

/-- The pattern of a format with the widths that are asked for.  A format for
just this request keeps its own widths. -/
def fitted (requested : Skeleton) (format : DateFormat) : List PatternItem :=
  if requested.distance format.skeleton = 0 then format.pattern
  else format.pattern.map (PatternItem.fit requested)

/-- The format has the fields that are asked for and no others. -/
def answers (requested : Skeleton) (format : DateFormat) : Bool :=
  requested.distance format.skeleton < Skeleton.extraField

end DateFormat

end IcuMessage
