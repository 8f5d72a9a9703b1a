import IcuMessage.Proofs.Text.Blanks
import IcuMessage.Text.Prefix

/-!
# Words and trimming of joined texts

The words of a text are its maximal runs of characters that are not blank
(`words_eq_iff`).  A blank between two texts keeps their words apart, so the words of
the whole are those of the first and then those of the second.

Leading blanks and leading pairs of a character are taken from the first text alone
unless nothing is left of it.
-/

namespace IcuMessage.Text

variable {character : Char} {text front back blanks : List Char}

/-! ## Words -/

/-- The words of a text, with blanks around and between them. -/
inductive Spaced : List Char → List (List Char) → Prop where
  | blanks {blanks : List Char}
      (blank : ∀ character ∈ blanks, isBlank character = true) :
      Spaced blanks []
  | word {blanks word rest : List Char} {later : List (List Char)}
      (blank : ∀ character ∈ blanks, isBlank character = true)
      (filled : word ≠ [])
      (solid : ∀ character ∈ word, isBlank character = false)
      (ends : ∀ character ∈ rest.head?, isBlank character = true)
      (others : Spaced rest later) :
      Spaced (blanks ++ (word ++ rest)) (word :: later)

theorem words_blanks_append
    (blank : ∀ character ∈ blanks, isBlank character = true)
    (rest : List Char) :
    words (blanks ++ rest) = words rest := by
  induction blanks with
  | nil => rfl
  | cons first more ih =>
      rw [List.cons_append, words_cons_blank (blank first List.mem_cons_self),
        ih fun character member => blank character (.tail _ member)]

theorem words_blanks (blank : ∀ character ∈ blanks, isBlank character = true) :
    words blanks = [] := by
  have none := words_blanks_append blank []
  rwa [List.append_nil] at none

theorem splitBlanks_ne_nil (text : List Char) : splitBlanks text ≠ [] := by
  cases text with
  | nil => simp [splitBlanks]
  | cons first rest =>
      rw [splitBlanks]
      split
      · simp
      · split <;> simp

/-- The pieces of two texts with a blank between them. -/
theorem splitBlanks_append_blank
    (blank : isBlank character = true)
    (front back : List Char) :
    splitBlanks (front ++ character :: back) = splitBlanks front ++ splitBlanks back := by
  induction front with
  | nil => simp [splitBlanks, blank]
  | cons first rest ih =>
      rw [List.cons_append, splitBlanks, splitBlanks, ih]
      split
      case isTrue => rfl
      case isFalse =>
        cases pieces : splitBlanks rest with
        | nil => exact absurd pieces (splitBlanks_ne_nil rest)
        | cons piece more => rfl

/-- A blank ends a word. -/
theorem words_append_blank
    (blank : isBlank character = true)
    (front back : List Char) :
    words (front ++ character :: back) = words front ++ words back := by
  rw [words, splitBlanks_append_blank blank, List.filter_append]
  rfl

theorem words_append_blanks
    (blank : ∀ character ∈ blanks, isBlank character = true)
    (text : List Char) :
    words (text ++ blanks) = words text := by
  cases blanks with
  | nil => rw [List.append_nil]
  | cons first more =>
      rw [words_append_blank (blank first List.mem_cons_self),
        words_blanks fun character member => blank character (.tail _ member), List.append_nil]

/-- A solid text is one piece. -/
theorem splitBlanks_solid
    (solid : ∀ character ∈ text, isBlank character = false) :
    splitBlanks text = [text] := by
  induction text with
  | nil => rfl
  | cons first rest ih =>
      rw [splitBlanks, solid first List.mem_cons_self,
        ih fun character member => solid character (.tail _ member)]
      rfl

/-- Text without blanks is one word. -/
theorem words_solid
    (filled : text ≠ [])
    (solid : ∀ character ∈ text, isBlank character = false) :
    words text = [text] := by
  rw [words, splitBlanks_solid solid]
  cases text with
  | nil => exact absurd rfl filled
  | cons first rest => rfl

/-- Words with blanks between them are the words of the text. -/
theorem words_of_spaced
    {listed : List (List Char)}
    (spaced : Spaced text listed) :
    words text = listed := by
  induction spaced with
  | blanks blank => exact words_blanks blank
  | @word blanks word rest later blank filled solid ends others ih =>
      rw [words_blanks_append blank, ← ih]
      cases rest with
      | nil => rw [List.append_nil, words_solid filled solid, words_nil]
      | cons first more =>
          have apart := ends first rfl
          rw [words_append_blank apart, words_solid filled solid, words_cons_blank apart]
          rfl

/-- A word at the very beginning of a text. -/
theorem Spaced.leading {word rest : List Char} {later : List (List Char)}
    (filled : word ≠ [])
    (solid : ∀ character ∈ word, isBlank character = false)
    (ends : ∀ character ∈ rest.head?, isBlank character = true)
    (others : Spaced rest later) :
    Spaced (word ++ rest) (word :: later) := by
  rw [← List.nil_append (word ++ rest)]
  exact .word nofun filled solid ends others

/-- Every text is words with blanks between them. -/
theorem exists_spaced (text : List Char) : ∃ listed, Spaced text listed := by
  induction text with
  | nil => exact ⟨[], .blanks nofun⟩
  | cons first rest ih =>
      rcases ih with
        ⟨listed, spaced⟩
      by_cases blank : isBlank first = true
      · -- a blank goes to those before the next word
        cases spaced with
        | blanks others => exact ⟨[], .blanks (List.forall_mem_cons.mpr ⟨blank, others⟩)⟩
        | word others filled solid ends later =>
            exact ⟨_, .word (List.forall_mem_cons.mpr ⟨blank, others⟩) filled solid ends later⟩
      · -- any other character begins a word, or is put before the one that begins behind it
        rw [Bool.not_eq_true] at blank
        have filled : [first] ≠ [] := List.cons_ne_nil first []
        have solid : ∀ character ∈ [first], isBlank character = false :=
          List.forall_mem_singleton.mpr blank
        cases spaced with
        | blanks others =>
            have ends : ∀ character ∈ rest.head?, isBlank character = true :=
              fun character member => others character (List.mem_of_mem_head? member)
            exact ⟨[[first]], .leading filled solid ends (.blanks others)⟩
        | @word blanks word after later others wordFilled wordSolid ends spaced =>
            cases blanks with
            | nil =>
                exact ⟨(first :: word) :: later,
                  .leading (List.cons_ne_nil first word)
                    (List.forall_mem_cons.mpr ⟨blank, wordSolid⟩) ends spaced⟩
            | cons gap more =>
                have apart : ∀ character ∈ (gap :: more ++ (word ++ after)).head?,
                    isBlank character = true := by
                  rintro _ ⟨⟩
                  exact others gap List.mem_cons_self
                exact ⟨[first] :: word :: later,
                  .leading filled solid apart (.word others wordFilled wordSolid ends spaced)⟩

/-- The words of a text are its maximal runs of characters that are not blank. -/
theorem words_eq_iff {listed : List (List Char)} :
    words text = listed ↔ Spaced text listed := by
  constructor
  · rintro rfl
    rcases exists_spaced text with
      ⟨listed, spaced⟩
    rwa [words_of_spaced spaced]
  · exact words_of_spaced

/-! ## Trimming -/

theorem trimStart_eq_nil_iff :
    trimStart text = [] ↔ ∀ character ∈ text, isBlank character = true :=
  List.dropWhile_eq_nil_iff

theorem trimStart_blanks_append
    (blank : ∀ character ∈ front, isBlank character = true)
    (back : List Char) :
    trimStart (front ++ back) = trimStart back :=
  List.dropWhile_append_of_pos blank

theorem trimStart_append_of_ne_nil
    (left : trimStart front ≠ [])
    (back : List Char) :
    trimStart (front ++ back) = trimStart front ++ back := by
  rw [trimStart, List.dropWhile_append]
  exact if_neg fun empty => left (List.isEmpty_iff.mp empty)

/-- What is trimmed from the end of a text is blank. -/
theorem exists_trimEnd_append_blanks (text : List Char) :
    ∃ blanks, (∀ character ∈ blanks, isBlank character = true) ∧
      text = trimEnd text ++ blanks := by
  refine ⟨(text.reverse.takeWhile isBlank).reverse, ?_, ?_⟩
  · intro character member
    exact List.mem_takeWhile_imp (List.mem_reverse.mp member)
  · rw [trimEnd, ← List.reverse_append, List.takeWhile_append_dropWhile, List.reverse_reverse]

theorem exists_trim_append_blanks (text : List Char) :
    ∃ blanks, (∀ character ∈ blanks, isBlank character = true) ∧
      trimStart text = trim text ++ blanks :=
  exists_trimEnd_append_blanks (trimStart text)

theorem trimStart_around_word
    (leads : ∀ character ∈ front, isBlank character = true)
    (filled : text ≠ [])
    (solid : hasBlank text = false)
    (back : List Char) :
    trimStart (front ++ (text ++ back)) = text ++ back := by
  rw [trimStart_blanks_append leads]
  exact trimStart_append filled (hasBlank_eq_false_iff.mp solid) back

/-- Of a word among blanks, trimming leaves the word. -/
theorem trim_around_word
    (leads : ∀ character ∈ front, isBlank character = true)
    (filled : text ≠ [])
    (solid : hasBlank text = false)
    (gaps : ∀ character ∈ back, isBlank character = true) :
    trim (front ++ (text ++ back)) = text := by
  have reversed : ∀ character ∈ back.reverse, isBlank character = true :=
    fun character member => gaps character (List.mem_reverse.mp member)
  rw [trim, trimStart_around_word leads filled solid, trimEnd, List.reverse_append,
    List.dropWhile_append_of_pos reversed]
  exact trimEnd_eq_self (hasBlank_eq_false_iff.mp solid)

/-- A text is its trimmed text with blanks on both sides. -/
theorem exists_blanks_around_trim (text : List Char) :
    ∃ lead gap,
      (∀ character ∈ lead, isBlank character = true) ∧
        (∀ character ∈ gap, isBlank character = true) ∧
          text = lead ++ (trim text ++ gap) := by
  rcases exists_blanks_append_trimStart text with
    ⟨lead, leads, whole⟩
  rcases exists_trim_append_blanks text with
    ⟨gap, gaps, rest⟩
  exact ⟨lead, gap, leads, gaps, by rw [← rest, ← whole]⟩

/-- Trimming leaves nothing exactly of blank text. -/
theorem trim_eq_nil_iff : trim text = [] ↔ ∀ character ∈ text, isBlank character = true := by
  constructor
  · intro nothing
    rcases exists_blanks_around_trim text with
      ⟨lead, gap, leads, gaps, whole⟩
    rw [whole, nothing, List.nil_append]
    exact List.forall_mem_append.mpr ⟨leads, gaps⟩
  · intro blank
    rw [trim, trimStart_eq_nil_iff.mpr blank]
    rfl

theorem trimStart_suffix (text : List Char) : trimStart text <:+ text :=
  List.dropWhile_suffix isBlank

theorem isBlank_of_mem_head?_trimStart (member : character ∈ (trimStart text).head?) :
    isBlank character = false := by
  have stopped := List.head?_dropWhile_not isBlank text
  rw [show text.dropWhile isBlank = trimStart text from rfl, Option.mem_def.mp member] at stopped
  exact stopped

theorem isBlank_of_mem_getLast?_trim (member : character ∈ (trim text).getLast?) :
    isBlank character = false := by
  rw [trim, trimEnd, List.getLast?_reverse] at member
  exact isBlank_of_mem_head?_trimStart member

/-- Blanks around a text do not change its words. -/
theorem words_trim (text : List Char) : words (trim text) = words text := by
  rcases exists_blanks_append_trimStart text with
    ⟨leading, leadingBlank, whole⟩
  rcases exists_trim_append_blanks text with
    ⟨trailing, trailingBlank, rest⟩
  calc words (trim text)
      = words (trim text ++ trailing) := (words_append_blanks trailingBlank _).symm
    _ = words (trimStart text) := by rw [← rest]
    _ = words (leading ++ trimStart text) := (words_blanks_append leadingBlank _).symm
    _ = words text := by rw [← whole]

/-! ## Leading pairs -/

theorem dropPairs_eq_self
    {first second : Char}
    (noPair : ¬ [first, second] <+: text) :
    dropPairs first second text = text := by
  fun_cases dropPairs first second text with
  | case1 left right rest pair =>
      obtain ⟨rfl, rfl⟩ := pair
      exact absurd (List.prefix_append [left, right] rest) noPair
  | case2 => rfl
  | case3 => rfl

theorem dropPairs_suffix (first second : Char) (text : List Char) :
    dropPairs first second text <:+ text := by
  fun_induction dropPairs first second text with
  | case1 left right rest pair ih =>
      exact ih.trans ((List.suffix_cons right rest).trans (List.suffix_cons left _))
  | case2 => exact List.suffix_refl _
  | case3 => exact List.suffix_refl _

theorem mem_getLast?_of_suffix (ending : front <:+ text)
    (member : character ∈ front.getLast?) :
    character ∈ text.getLast? := by
  rcases ending with
    ⟨before, rfl⟩
  rw [Option.mem_def] at member ⊢
  rw [List.getLast?_append, member, Option.some_or]

/-- Pairs at the beginning of two texts in a row belong to the first of them, if the
characters at the place where the texts meet make up no pair. -/
theorem dropPairs_append
    (apart : back.head? ≠ some character ∨
      front ≠ [] ∧ front.getLast? ≠ some character) :
    dropPairs character character (front ++ back) =
      dropPairs character character front ++ back := by
  fun_induction dropPairs character character front with
  | case1 left right rest pair ih =>
      rw [List.cons_append, List.cons_append, dropPairs, if_pos pair]
      refine ih (apart.imp_right fun ⟨_, ending⟩ => ?_)
      cases rest with
      | nil => exact absurd (congrArg some pair.2) ending
      | cons next more => exact ⟨List.cons_ne_nil next more, ending⟩
  | case2 left right rest other =>
      rw [List.cons_append, List.cons_append, dropPairs, if_neg other]
  | case3 front short =>
      refine dropPairs_eq_self ?_
      rintro ⟨rest, pair⟩
      rcases front with _ | ⟨only, _ | ⟨next, more⟩⟩
      · -- the pair would begin the second text
        rcases apart with other | ⟨filled, _⟩
        · rw [List.nil_append] at pair
          rw [← pair] at other
          exact other rfl
        · exact filled rfl
      · -- the pair would be the first text and the beginning of the second
        cases back with
        | nil => cases pair
        | cons head tail =>
            cases pair
            rcases apart with other | ⟨_, ending⟩
            · exact other rfl
            · exact ending rfl
      · exact short only next more rfl

end IcuMessage.Text
