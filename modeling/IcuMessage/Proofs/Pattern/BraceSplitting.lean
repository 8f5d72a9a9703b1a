import IcuMessage.Proofs.Pattern.Braces
import Mathlib.Data.List.Chain

/-!
# Splitting a text at its braces

Nesting splits a text into stretches and blocks, one after the other, and splits the
content of each block again.  `Nest.Splits` says what the elements of one level are like:
put together, with braces around the blocks, they are the text; stretches are neither
empty nor next to one another and have no brace in them; the content of a block is
balanced; and every element knows where its content starts.

The elements that are read have these properties, and no other elements have them
(`Nest.read_eq_ok_iff_splits`).  There are such elements exactly if the braces of the text
are balanced (`nests_split_without_loss`).
-/

namespace IcuMessage

namespace Nest

/-- The element is a stretch of text. -/
def IsText : Nest → Prop
  | .text _ _ => True
  | .block _ _ => False

/-- The brace in front of a block. -/
def opening : Nest → List Char
  | .text _ _ => []
  | .block _ _ => ['{']

/-- The brace behind a block. -/
def closing : Nest → List Char
  | .text _ _ => []
  | .block _ _ => ['}']

/-- What an element holds, for a block the text between its braces. -/
def content : Nest → List Char
  | .text content _ => content
  | .block children _ => sourceList children

/-- The byte offset of what an element holds. -/
def offset : Nest → Nat
  | .text _ offset | .block _ offset => offset

/-- A stretch that is cut no further, or a block that is balanced and cut into what it
holds. -/
def IsElement : Nest → Prop
  | .text content _ => content ≠ [] ∧ '{' ∉ content ∧ '}' ∉ content
  | .block children offset =>
      Balanced (braces (sourceList children)) ∧ read (sourceList children) offset = .ok children

/-- The elements of a text whose first character has the byte offset `base`. -/
structure Splits (base : Nat) (text : List Char) (nests : List Nest) : Prop where
  /-- The elements are the text, one after the other. -/
  whole : text = nests.flatMap fun nest => nest.opening ++ (nest.content ++ nest.closing)
  elements : ∀ nest ∈ nests, nest.IsElement
  /-- No two stretches are neighbours. -/
  apart : nests.IsChain fun first second => ¬ (first.IsText ∧ second.IsText)
  /-- The content of an element starts at its offset. -/
  placed : ∀ front nest back, nests = front ++ nest :: back →
    ∃ before after,
      text = before ++ (nest.content ++ after) ∧ before = sourceList front ++ nest.opening ∧
        nest.offset = base + Text.byteWidth before

/-- The source of a nest is its content between its braces, if it has any. -/
theorem source_eq (nest : Nest) : nest.source = nest.opening ++ (nest.content ++ nest.closing) := by
  cases nest with
  | text content offset => simp [source, opening, Nest.content, closing]
  | block children offset => simp [source, opening, Nest.content, closing]

theorem sourceList_eq_flatMap (nests : List Nest) :
    sourceList nests =
      nests.flatMap fun nest => nest.opening ++ (nest.content ++ nest.closing) := by
  induction nests with
  | nil => rfl
  | cons nest rest ih => rw [sourceList, List.flatMap_cons, source_eq, ih]

/-- The parts of a split make up the text. -/
theorem Splits.sourceList_eq
    {base : Nat}
    {text : List Char}
    {nests : List Nest}
    (splits : Splits base text nests) :
    sourceList nests = text := by
  rw [sourceList_eq_flatMap, splits.whole]

theorem startWithText_iff {nests : List Nest} :
    StartWithText nests ↔ ∃ nest ∈ nests.head?, nest.IsText := by
  cases nests with
  | nil => simp [StartWithText]
  | cons nest rest => cases nest <;> simp [StartWithText, IsText]

variable {base : Nat} {text : List Char} {nest : Nest} {nests : List Nest}

theorem splits_nil_iff : Splits base text [] ↔ text = [] := by
  constructor
  · exact Splits.whole
  · rintro rfl
    exact ⟨rfl, by simp, .nil, by simp⟩

/-- The first element of a text, and the elements of the text behind it. -/
theorem splits_cons_iff :
    Splits base text (nest :: nests) ↔
      nest.offset = base + Text.byteWidth nest.opening ∧ nest.IsElement ∧
        (nest.IsText → ¬ StartWithText nests) ∧
        ∃ rest, text = nest.source ++ rest ∧
          Splits (base + Text.byteWidth nest.source) rest nests := by
  constructor
  · intro splits
    rcases List.isChain_cons.mp splits.apart with
      ⟨next, apart⟩
    rcases List.forall_mem_cons.mp splits.elements with
      ⟨element, elements⟩
    have whole : text = nest.source ++ sourceList nests := splits.sourceList_eq.symm
    refine ⟨?_, element, ?_, sourceList nests, whole, sourceList_eq_flatMap nests, elements, apart,
      ?_⟩
    · rcases splits.placed [] nest nests rfl with
        ⟨_, _, _, rfl, place⟩
      exact place
    · intro isText starts
      rcases startWithText_iff.mp starts with
        ⟨second, member, isTextToo⟩
      exact next second member ⟨isText, isTextToo⟩
    · rintro front inner back rfl
      rcases splits.placed (nest :: front) inner back rfl with
        ⟨_, after, shape, rfl, place⟩
      refine ⟨_, after, ?_, rfl, ?_⟩
      · rw [whole, sourceList, List.append_assoc, List.append_assoc] at shape
        rw [List.append_assoc]
        exact List.append_cancel_left shape
      · rw [place, sourceList]
        simp only [Text.byteWidth_append]
        omega
  · rintro ⟨place, element, apart, rest, rfl, splits⟩
    refine ⟨?_, List.forall_mem_cons.mpr ⟨element, splits.elements⟩,
      List.isChain_cons.mpr ⟨?_, splits.apart⟩, ?_⟩
    · rw [List.flatMap_cons, ← source_eq, ← splits.whole]
    · rintro second member ⟨isText, isTextToo⟩
      exact apart isText (startWithText_iff.mpr ⟨second, member, isTextToo⟩)
    · intro front inner back split
      cases front with
      | nil =>
          obtain ⟨rfl, rfl⟩ := List.cons.inj split
          refine ⟨nest.opening, nest.closing ++ rest, ?_, rfl, place⟩
          rw [source_eq]
          simp
      | cons first front =>
          obtain ⟨rfl, rfl⟩ := List.cons.inj split
          rcases splits.placed front inner back rfl with
            ⟨_, after, rfl, rfl, later⟩
          refine ⟨_, after, ?_, rfl, ?_⟩
          · rw [sourceList]
            simp
          · rw [later, sourceList]
            simp only [Text.byteWidth_append]
            omega

end Nest

namespace Nested

variable {base : Nat} {text : List Char} {nests : List Nest}

/-- Nests make up the text that they are read from. -/
theorem sourceList_eq (nested : Nested base text nests) : Nest.sourceList nests = text := by
  induction nested with
  | nil => rfl
  | text _ _ _ _ behind => rw [Nest.sourceList, Nest.source, behind]
  | block _ _ inside behind =>
      rw [Nest.sourceList, Nest.source, inside, behind]
      simp

theorem balanced (nested : Nested base text nests) : Balanced (braces text) := by
  have report := Nest.braceReport_read base text
  rw [Nest.read_eq_ok_iff.mpr nested] at report
  cases report with
  | balanced paired => exact paired

/-- A stretch of text comes first exactly if it is not empty, has no brace and is followed
by no other stretch. -/
theorem cons_text_iff
    {content : List Char}
    {offset : Nat} :
    Nested base text (.text content offset :: nests) ↔
      offset = base ∧ Nest.IsElement (.text content offset) ∧ ¬ Nest.StartWithText nests ∧
        ∃ rest, text = content ++ rest ∧ Nested (base + Text.byteWidth content) rest nests := by
  constructor
  · intro nested
    cases nested with
    | text filled noBrace apart behind => exact ⟨rfl, ⟨filled, noBrace⟩, apart, _, rfl, behind⟩
  · rintro ⟨rfl, ⟨filled, noBrace⟩, apart, rest, rfl, behind⟩
    exact .text filled noBrace apart behind

/-- A block comes first exactly if the text begins with its braces around its own source.
-/
theorem cons_block_iff
    {children : List Nest}
    {offset : Nat} :
    Nested base text (.block children offset :: nests) ↔
      offset = base + 1 ∧ Nest.IsElement (.block children offset) ∧
        ∃ rest, text = '{' :: (Nest.sourceList children ++ '}' :: rest) ∧
          Nested (base + 1 + Text.byteWidth (Nest.sourceList children) + 1) rest nests := by
  constructor
  · intro nested
    cases nested with
    | block inside behind =>
        obtain rfl := inside.sourceList_eq
        exact ⟨rfl, ⟨inside.balanced, Nest.read_eq_ok_iff.mpr inside⟩, _, rfl, behind⟩
  · rintro ⟨rfl, ⟨_, inside⟩, rest, rfl, behind⟩
    exact .block (Nest.read_eq_ok_iff.mp inside) behind

end Nested

namespace Nest

variable {base : Nat} {text : List Char} {nests : List Nest}

/-- Nests of a text are the ways in which it splits. -/
theorem nested_iff_splits : Nested base text nests ↔ Splits base text nests := by
  have one : ('{' : Char).utf8Size = 1 ∧ ('}' : Char).utf8Size = 1 := by decide
  induction nests generalizing base text with
  | nil =>
      rw [splits_nil_iff]
      constructor
      · intro nested
        exact nested.sourceList_eq.symm
      · rintro rfl
        exact .nil
  | cons nest rest ih =>
      rw [splits_cons_iff]
      cases nest with
      | text content offset =>
          simp only [Nested.cons_text_iff, ih, Nest.offset, opening, IsText, source,
            Text.byteWidth_nil, Nat.add_zero, true_implies]
      | block children offset =>
          have shape (rest : List Char) :
              source (.block children offset) ++ rest =
                '{' :: (sourceList children ++ '}' :: rest) := by
            simp [source]
          have width : base + Text.byteWidth (source (.block children offset)) =
              base + 1 + Text.byteWidth (sourceList children) + 1 := by
            simp only [source, Text.byteWidth_cons, Text.byteWidth_append, Text.byteWidth_nil, one]
            omega
          simp only [Nested.cons_block_iff, ih, width, shape, Nest.offset, opening, IsText,
            Text.byteWidth_cons, Text.byteWidth_nil, one, false_implies, true_and, Nat.add_zero]

/-- Reading a text gives the elements that it splits into. -/
theorem read_eq_ok_iff_splits : read text base = .ok nests ↔ Splits base text nests :=
  read_eq_ok_iff.trans nested_iff_splits

/-- A text has nests exactly if its braces are balanced. -/
theorem exists_read_iff_balanced :
    (∃ nests, read text base = .ok nests) ↔ Balanced (braces text) := by
  constructor
  · rintro ⟨nests, read⟩
    exact (read_eq_ok_iff.mp read).balanced
  · intro paired
    exact exists_read_of_balanced paired base

end Nest

/-- A text is read as the elements that it splits into and as no others, and there are
such elements exactly if its braces are balanced. -/
theorem nests_split_without_loss (base : Nat) (text : List Char) :
    (∀ nests, Nest.read text base = .ok nests ↔ Nest.Splits base text nests) ∧
      ((∃ nests, Nest.read text base = .ok nests) ↔ Balanced (braces text)) :=
  ⟨fun _ => Nest.read_eq_ok_iff_splits, Nest.exists_read_iff_balanced⟩

end IcuMessage
