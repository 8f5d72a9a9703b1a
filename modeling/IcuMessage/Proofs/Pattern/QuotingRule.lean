import IcuMessage.Proofs.Pattern.Places

/-!
# The quoting rule

`Piece.IsSection` says what a quoted section is, and `Piece.Scanned` how sections
are found from left to right: where one starts it is taken whole, and any other
character stands for itself.  The reader of pieces finds what the rule gives and
nothing else (`Piece.scanned_iff`).
-/

namespace IcuMessage.Piece

/-- A doubled apostrophe, or two apostrophes around a character that opens a
section and characters that are neither apostrophes nor line breaks. -/
inductive IsSection : Piece → Prop where
  | apostrophe : IsSection .apostrophe
  | quoted {first : Char} {run : List Char}
      (opens : opensQuote first = true)
      (noApostrophe : '\'' ∉ run)
      (noBreak : '\n' ∉ run) :
      IsSection (.quoted (first :: run))

/-- The pieces of a text, from left to right. -/
inductive Scanned : List Char → List Piece → Prop where
  | nil : Scanned [] []
  | quoted {piece : Piece} {rest : List Char} {pieces : List Piece}
      (quotes : piece.IsSection)
      (later : Scanned rest pieces) :
      Scanned (piece.source ++ rest) (piece :: pieces)
  | plain {character : Char} {rest : List Char} {pieces : List Piece}
      (noSection : ∀ piece after, IsSection piece → character :: rest ≠ piece.source ++ after)
      (later : Scanned rest pieces) :
      Scanned (character :: rest) (.plain character :: pieces)

/-- A section is closed by the first apostrophe, if no line break stands before it. -/
theorem closesQuote_iff
    {text : List Char} :
    closesQuote text = true ↔
      ∃ run after, text = run ++ '\'' :: after ∧ '\'' ∉ run ∧ '\n' ∉ run := by
  induction text with
  | nil => simp [closesQuote]
  | cons character rest ih =>
      rw [closesQuote, Bool.or_eq_true, Bool.and_eq_true, ih]
      constructor
      · rintro (closes | ⟨noBreak, run, after, rfl, noApostrophe, noLaterBreak⟩)
        · exact ⟨[], rest, by simpa using closes, by simp, by simp⟩
        · by_cases closes : character = '\''
          · exact ⟨[], run ++ '\'' :: after, by rw [closes]; rfl, by simp, by simp⟩
          · refine ⟨character :: run, after, rfl, ?_, ?_⟩
            · simp [Ne.symm closes, noApostrophe]
            · have other : character ≠ '\n' := by simpa using noBreak
              simp [other.symm, noLaterBreak]
      · rintro ⟨run, after, same, noApostrophe, noBreak⟩
        cases run with
        | nil =>
            left
            simp [(List.cons.inj same).1]
        | cons first run =>
            rcases List.cons.inj same with
              ⟨rfl, rest⟩
            rw [List.mem_cons, not_or] at noApostrophe noBreak
            right
            exact ⟨by simpa using Ne.symm noBreak.1, run, after, rest, noApostrophe.2, noBreak.2⟩

/-- A quoted section ends at the first apostrophe. -/
theorem readFrom_some_append
    {run : List Char}
    (noApostrophe : '\'' ∉ run)
    (content after : List Char) :
    readFrom (some content) (run ++ '\'' :: after) =
      .quoted (content.reverse ++ run) :: readFrom none after := by
  induction run generalizing content with
  | nil =>
      rw [List.nil_append, readFrom, List.append_nil]
  | cons character run ih =>
      rw [List.mem_cons, not_or] at noApostrophe
      rcases noApostrophe with
        ⟨other, noApostrophe⟩
      rw [List.cons_append, readFrom, ih noApostrophe]
      · simp
      · exact fun same => other same.symm

/-- What stands first in a text as a section is read as that section. -/
theorem read_section
    {piece : Piece}
    (quotes : piece.IsSection)
    (rest : List Char) :
    read (piece.source ++ rest) = piece :: read rest := by
  cases quotes with
  | apostrophe =>
      rw [read, source, List.cons_append, List.cons_append, List.nil_append, readFrom]
      rfl
  | @quoted first run opens noApostrophe noBreak =>
      have closes : closesQuote (run ++ '\'' :: rest) = true :=
        closesQuote_iff.mpr ⟨run, rest, rfl, noApostrophe, noBreak⟩
      have shape : source (.quoted (first :: run)) ++ rest =
          '\'' :: first :: (run ++ '\'' :: rest) := by
        simp [source]
      rw [shape, read, readFrom, opens, closes]
      · exact readFrom_some_append noApostrophe [first] rest
      · rintro rfl
        exact absurd opens (by decide)

/-- A character at which no section stands is read as plain. -/
theorem read_plain
    {character : Char}
    {rest : List Char}
    (noSection : ∀ piece after, IsSection piece → character :: rest ≠ piece.source ++ after) :
    read (character :: rest) = .plain character :: read rest := by
  by_cases quote : character = '\''
  · subst quote
    cases rest with
    | nil =>
        rw [read, readFrom.eq_def]
        rfl
    | cons second rest =>
        by_cases doubled : second = '\''
        · subst doubled
          exact absurd rfl (noSection .apostrophe rest .apostrophe)
        · have unopened : ¬ (opensQuote second && closesQuote rest) = true := by
            intro opens
            rw [Bool.and_eq_true] at opens
            rcases closesQuote_iff.mp opens.2 with
              ⟨run, after, rfl, noApostrophe, noBreak⟩
            refine noSection (.quoted (second :: run)) after
              (.quoted opens.1 noApostrophe noBreak) ?_
            simp [source]
          rw [read, readFrom, if_neg unopened]
          · rfl
          · exact fun same => absurd same doubled
  · exact read_cons_plain quote rest

/-- Every piece has a source of its own. -/
theorem length_source_pos (piece : Piece) : 0 < piece.source.length := by
  cases piece <;> simp [source]

/-- The pieces that are read are a scan of the text. -/
theorem scanned_read (text : List Char) : Scanned text (read text) := by
  by_cases starts : ∃ piece after, IsSection piece ∧ text = piece.source ++ after
  · rcases starts with
      ⟨piece, after, quotes, rfl⟩
    rw [read_section quotes]
    exact .quoted quotes (scanned_read after)
  · cases text with
    | nil => exact .nil
    | cons character rest =>
        have noSection : ∀ piece after, IsSection piece →
            character :: rest ≠ piece.source ++ after := by
          intro piece after quotes same
          exact starts ⟨piece, after, quotes, same⟩
        rw [read_plain noSection]
        exact .plain noSection (scanned_read rest)
termination_by text.length
decreasing_by
  · have filled := length_source_pos piece
    subst_vars
    rw [List.length_append]
    omega
  · subst_vars
    exact Nat.lt_succ_self _

/-- The pieces of a text are those that the quoting rule gives. -/
theorem scanned_iff
    {text : List Char}
    {pieces : List Piece} :
    Scanned text pieces ↔ read text = pieces := by
  constructor
  · intro scanned
    induction scanned with
    | nil => rfl
    | quoted quotes later ih => rw [read_section quotes, ih]
    | plain noSection later ih => rw [read_plain noSection, ih]
  · rintro rfl
    exact scanned_read text

end IcuMessage.Piece
