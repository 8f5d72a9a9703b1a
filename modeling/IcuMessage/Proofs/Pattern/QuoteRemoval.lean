import IcuMessage.Proofs.Pattern.Braces
import IcuMessage.Proofs.Pattern.ByteOrigins

/-!
# Masking and unmasking take the quotes away

Masking puts markers in place of the quoted sections of a pattern, and unmasking puts the
quoted text in place of the markers.  A pattern without the marker character has no other
markers in its mask, whatever scores and digits stand against them, so what is left is the
text that the pieces of the pattern stand for (`unmask_textOf`).

The same holds of every stretch of the masked text that cuts no marker in two.  It is the
mask of some pieces in a row (`Piece.exists_part_of_not_insideMarker`), and these are also
what the quoting rule makes of their source by itself (`Piece.Scanned.within`).
-/

namespace IcuMessage

namespace Piece

/-- The text that pieces stand for: every quoted section is replaced by its content. -/
def meanings (pieces : List Piece) : List Char :=
  pieces.flatMap meaning

@[simp]
theorem meanings_nil : meanings [] = [] := rfl

@[simp]
theorem meanings_cons (piece : Piece) (rest : List Piece) :
    meanings (piece :: rest) = piece.meaning ++ meanings rest :=
  List.flatMap_cons

/-- A marker keeps the text that its section stands for. -/
theorem meaning_eq_of_quote?
    {piece : Piece}
    {quote : List Char}
    (kept : piece.quote? = some quote) :
    piece.meaning = quote := by
  cases piece with
  | plain character => cases kept
  | apostrophe => exact Option.some.inj kept
  | quoted content => exact Option.some.inj kept

end Piece

/-! ## Unmasking the mask of pieces -/

variable {pieces : List Piece}

/-- Masked text starts with the marker character only if the pieces do. -/
theorem Masked.head?_textOf_ne_marker
    (clear : .plain markerCharacter ∉ pieces)
    (index : Nat) :
    (Masked.textOf index pieces).head? ≠ some markerCharacter := by
  cases pieces with
  | nil => nofun
  | cons piece rest =>
      rcases piece.plain_or_quoted with ⟨character, rfl⟩ | quoted
      · rw [List.mem_cons, not_or] at clear
        intro starts
        obtain rfl : character = markerCharacter := Option.some.inj starts
        exact clear.1 rfl
      · rw [Masked.textOf_quoted quoted]
        intro starts
        exact absurd (Option.some.inj starts) (by decide)

/-- A character starts no marker if the marker character does not follow. -/
theorem markerDigits?_cons_of_head?_ne
    {rest : List Char}
    (unmarked : rest.head? ≠ some markerCharacter)
    (character : Char) :
    markerDigits? (character :: rest) = none := by
  rw [Option.eq_none_iff_forall_ne_some]
  intro digits marked
  rcases markerDigits?_eq_some_iff.mp marked with
    ⟨_, _, behind, same⟩
  rw [(List.cons.inj same).2] at unmarked
  exact unmarked rfl

/-- In the mask of pieces nothing but the markers of their sections is replaced. -/
theorem unmask_textOf
    {quotes : List (List Char)}
    {index : Nat}
    (clear : .plain markerCharacter ∉ pieces)
    (held : pieces.filterMap Piece.quote? <+: quotes.drop index) :
    unmask quotes (Masked.textOf index pieces) = Piece.meanings pieces := by
  induction pieces generalizing index with
  | nil => rfl
  | cons piece rest ih =>
      have clearRest : .plain markerCharacter ∉ rest := fun member => clear (.tail _ member)
      rcases piece.plain_or_quoted with ⟨character, rfl⟩ | quoted
      · have alone := markerDigits?_cons_of_head?_ne
          (Masked.head?_textOf_ne_marker clearRest index) character
        rw [Masked.textOf, unmask_cons_of_none alone, ih clearRest held]
        rfl
      · rcases Option.isSome_iff_exists.mp quoted with
          ⟨quote, kept⟩
        rw [List.filterMap_cons_some kept] at held
        rcases getElem?_and_drop_of_prefix held with
          ⟨found, later⟩
        rw [Masked.textOf_quoted quoted, unmask_marker found, ih clearRest later,
          Piece.meanings_cons, Piece.meaning_eq_of_quote? kept]

/-! ## Pieces in a row -/

namespace Piece

variable {text : List Char} {front part back : List Piece}

/-- The pieces of a scan make up its text. -/
theorem Scanned.sources_eq (cut : Scanned text pieces) : sources pieces = text := by
  rw [← scanned_iff.mp cut, sources_read]

/-- What the quoting rule finds behind some pieces does not depend on them. -/
theorem Scanned.behind (cut : Scanned text (front ++ back)) : Scanned (sources back) back := by
  induction front generalizing text with
  | nil =>
      rw [List.nil_append] at cut
      rwa [cut.sources_eq]
  | cons piece front ih =>
      cases cut with
      | quoted _ later => exact ih later
      | plain _ later => exact ih later

/-- A section that the rule finds in a beginning of the text it finds in the whole text. -/
theorem Scanned.before (cut : Scanned text (front ++ back)) : Scanned (sources front) front := by
  induction front generalizing text with
  | nil => exact .nil
  | cons piece front ih =>
      cases cut with
      | quoted quotes later =>
          rw [sources_cons]
          exact .quoted quotes (ih later)
      | @plain character rest _ noSection later =>
          refine .plain (fun piece after quotes same => ?_) (ih later)
          have whole : sources front ++ sources back = rest := by
            rw [← sources_append]
            exact later.sources_eq
          refine noSection piece (after ++ sources back) quotes ?_
          rw [← List.append_assoc, ← same, ← whole]
          rfl

/-- Any run of pieces of a scan is the scan of its own sources. -/
theorem Scanned.within (cut : Scanned text (front ++ (part ++ back))) :
    Scanned (sources part) part :=
  cut.behind.before

end Piece

/-- Of two beginnings of a text, the wider one starts with the other. -/
theorem Text.exists_append_of_byteWidth_le
    {front back before after : List Char}
    (same : front ++ back = before ++ after)
    (reached : byteWidth front ≤ byteWidth before) :
    ∃ more, before = front ++ more ∧ back = more ++ after := by
  rcases List.append_eq_append_iff.mp same with shorter | ⟨more, rfl, rfl⟩
  · exact shorter
  · cases more with
    | nil => exact ⟨[], by simp, by simp⟩
    | cons character more =>
        have wide := character.utf8Size_pos
        simp only [byteWidth_append, byteWidth_cons] at reached
        omega

namespace Piece

variable {front rest : List Piece} {middle after : List Char}

/-- No marker is cut in two between pieces. -/
theorem not_insideMarker_textOf (front back : List Piece) :
    ¬ InsideMarker (front ++ back) (Text.byteWidth (Masked.textOf 0 front)) := by
  rintro ⟨before, piece, after, split, _, begun, unfinished⟩
  rcases split_append split with ⟨more, rfl, _⟩ | ⟨more, rfl, _⟩
  · rw [List.append_cons, textOf_append, Text.byteWidth_append] at unfinished
    omega
  · rw [textOf_append, Text.byteWidth_append] at begun
    omega

/-- Behind some pieces, a stretch of the masked text up to a place that is not inside of a
marker is the mask of the pieces that follow. -/
theorem exists_part_of_not_insideMarker
    (shown : Masked.textOf (front.filterMap quote?).length rest = middle ++ after)
    (outside : ¬ InsideMarker (front ++ rest)
      (Text.byteWidth (Masked.textOf 0 front ++ middle))) :
    ∃ part back,
      rest = part ++ back ∧ Masked.textOf (front.filterMap quote?).length part = middle ∧
        Masked.textOf ((front ++ part).filterMap quote?).length back = after := by
  suffices found : ∃ part back,
      rest = part ++ back ∧ Masked.textOf (front.filterMap quote?).length part = middle by
    rcases found with
      ⟨part, back, rfl, rfl⟩
    refine ⟨part, back, rfl, rfl, ?_⟩
    rw [textOf_append, List.append_cancel_left_eq] at shown
    rwa [List.filterMap_append, List.length_append]
  cases after with
  | nil => exact ⟨rest, [], by simp, by simpa using shown⟩
  | cons next after =>
      have inside : Text.byteWidth middle <
          Text.byteWidth (Masked.textOf (front.filterMap quote?).length rest) := by
        have wide := next.utf8Size_pos
        rw [shown, Text.byteWidth_append, Text.byteWidth_cons]
        omega
      rcases exists_split_of_lt inside with
        ⟨part, piece, back, rfl, begun, ends⟩
      rw [textOf_append] at shown
      rcases Text.exists_append_of_byteWidth_le shown begun with
        ⟨more, rfl, follows⟩
      cases more with
      | nil => exact ⟨part, piece :: back, rfl, by simp⟩
      | cons first more =>
          have wide := first.utf8Size_pos
          rcases piece.plain_or_quoted with ⟨character, rfl⟩ | quoted
          · -- The stretch would end behind the first byte of the character, and before its end.
            obtain rfl : character = first := (List.cons.inj follows).1
            simp only [textOf_append, Masked.textOf, Text.byteWidth_append, Text.byteWidth_cons,
              Text.byteWidth_nil] at ends
            omega
          · refine absurd ⟨front ++ part, piece, back, by simp, quoted, ?_, ?_⟩ outside
            · simp only [textOf_append, Nat.zero_add, Text.byteWidth_append, Text.byteWidth_cons]
              omega
            · rw [List.append_assoc, textOf_append, Nat.zero_add, Text.byteWidth_append,
                Text.byteWidth_append (Masked.textOf 0 front)]
              exact Nat.add_lt_add_left ends _

end Piece

/-- Masking and unmasking a pattern without the marker character leaves the pattern with
every quoted section replaced by its content.  Unmasking a stretch of the masked text that
starts and ends outside of the markers leaves the same of the stretch of the pattern that
it is the mask of, which the quoting rule cuts into the same pieces. -/
theorem unmasking_removes_quoting
    {pattern : String}
    {pieces : List Piece}
    (unmarked : markerCharacter ∉ pattern.toList)
    (cut : Piece.Scanned pattern.toList pieces) :
    let masked := Masked.ofPattern pattern.toList
    unmask masked.quotes masked.text = Piece.meanings pieces ∧
    ∀ before middle after,
      masked.text = before ++ (middle ++ after) →
        ¬ Piece.InsideMarker pieces (Text.byteWidth before) →
          ¬ Piece.InsideMarker pieces (Text.byteWidth (before ++ middle)) →
            ∃ front part back,
              pieces = front ++ (part ++ back) ∧
                pattern.toList =
                  Piece.sources front ++ (Piece.sources part ++ Piece.sources back) ∧
                masked.unmaskedOffset (Text.byteWidth before) =
                  Text.byteWidth (Piece.sources front) ∧
                masked.unmaskedOffset (Text.byteWidth (before ++ middle)) =
                  Text.byteWidth (Piece.sources front ++ Piece.sources part) ∧
                Piece.Scanned (Piece.sources part) part ∧
                unmask masked.quotes middle = Piece.meanings part := by
  have read : Piece.read pattern.toList = pieces := Piece.scanned_iff.mp cut
  have whole : Piece.sources pieces = pattern.toList := cut.sources_eq
  have clear : .plain markerCharacter ∉ pieces := by
    intro member
    refine unmarked (whole ▸ ?_)
    exact List.mem_flatMap.mpr ⟨_, member, List.mem_singleton_self _⟩
  have text : (Masked.ofPattern pattern.toList).text = Masked.textOf 0 pieces := by
    rw [← read]
    rfl
  have quotes : (Masked.ofPattern pattern.toList).quotes = pieces.filterMap Piece.quote? := by
    rw [← read]
    rfl
  intro masked
  refine ⟨?_, fun before middle after shown starts ends => ?_⟩
  · rw [text, quotes]
    exact unmask_textOf clear (List.prefix_refl _)
  · rw [text] at shown
    obtain ⟨front, rest, rfl, starting, behind⟩ :=
      @Piece.exists_part_of_not_insideMarker [] pieces before _ shown starts
    obtain rfl : Masked.textOf 0 front = before := starting
    rw [List.nil_append] at behind
    obtain ⟨part, back, rfl, rfl, -⟩ := Piece.exists_part_of_not_insideMarker behind ends
    have stretch :
        Masked.textOf 0 front ++ Masked.textOf (front.filterMap Piece.quote?).length part =
          Masked.textOf 0 (front ++ part) := by
      rw [textOf_append, Nat.zero_add]
    refine ⟨front, part, back, rfl, ?_, Masked.unmaskedOffset_textOf read, ?_, cut.within, ?_⟩
    · rw [← whole, Piece.sources_append, Piece.sources_append]
    · rw [← List.append_assoc] at read
      rw [stretch, Masked.unmaskedOffset_textOf read, Piece.sources_append]
    · rw [quotes, List.filterMap_append]
      refine unmask_textOf (fun member => clear (by simp [member])) ?_
      rw [List.drop_left, List.filterMap_append]
      exact List.prefix_append _ _

/-- Scores and digits stand against two sections, one of which holds a digit. -/
def crowdedQuotes : String :=
  "7_'\x7b0\x7d'1''_2"

/-- The pieces of `crowdedQuotes`. -/
def crowdedPieces : List Piece :=
  [.plain '7', .plain '_', .quoted ['\x7b', '0', '\x7d'], .plain '1', .apostrophe, .plain '_',
    .plain '2']

/-- Both sections of `crowdedQuotes` come back without their apostrophes, and so does the
stretch from a score over the first section to the digit behind it. -/
theorem unmasking_removes_quoting_crowdedQuotes :
    let masked := Masked.ofPattern crowdedQuotes.toList
    let middle := '_' :: (marker 0 ++ ['1'])
    markerCharacter ∉ crowdedQuotes.toList ∧
      Piece.Scanned crowdedQuotes.toList crowdedPieces ∧
      unmask masked.quotes masked.text = "7_\x7b0\x7d1'_2".toList ∧
      masked.text = ['7'] ++ (middle ++ (marker 1 ++ ['_', '2'])) ∧
      ¬ Piece.InsideMarker crowdedPieces (Text.byteWidth ['7']) ∧
      ¬ Piece.InsideMarker crowdedPieces (Text.byteWidth (['7'] ++ middle)) ∧
      ∃ front part back,
        crowdedPieces = front ++ (part ++ back) ∧
          masked.unmaskedOffset 1 = Text.byteWidth (Piece.sources front) ∧
          Piece.Scanned (Piece.sources part) part ∧
          unmask masked.quotes middle = Piece.meanings part := by
  intro masked middle
  have unmarked : markerCharacter ∉ crowdedQuotes.toList := by decide +kernel
  have cut : Piece.Scanned crowdedQuotes.toList crowdedPieces := by
    rw [Piece.scanned_iff]
    decide +kernel
  have shown : masked.text = ['7'] ++ (middle ++ (marker 1 ++ ['_', '2'])) := by
    decide +kernel
  have starts : ¬ Piece.InsideMarker crowdedPieces (Text.byteWidth ['7']) :=
    Piece.not_insideMarker_textOf [.plain '7'] _
  have ends : ¬ Piece.InsideMarker crowdedPieces (Text.byteWidth (['7'] ++ middle)) :=
    Piece.not_insideMarker_textOf
      [.plain '7', .plain '_', .quoted ['\x7b', '0', '\x7d'], .plain '1'] _
  obtain ⟨whole, stretches⟩ := unmasking_removes_quoting unmarked cut
  obtain ⟨front, part, back, split, _, first, _, within, meant⟩ :=
    stretches ['7'] middle _ shown starts ends
  exact ⟨unmarked, cut, whole, shown, starts, ends, front, part, back, split, first, within, meant⟩

end IcuMessage
