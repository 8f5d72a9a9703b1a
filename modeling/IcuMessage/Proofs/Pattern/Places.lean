import IcuMessage.Proofs.Pattern.Quoting

/-!
# Places in a pattern and in its mask

The masked text of a pattern shows some of its pieces as they are, and a marker
for every other one.  A place between two pieces has a byte offset in both.
This module supplies the places that can be told from the masked text alone:
those beside a character that is in no marker (`Piece.Shows.behind`), and those
behind text that begins at such a place and has no marker in it
(`Piece.Shows.run`).

An offset between pieces is taken from the masked text to the pattern exactly
(`Masked.unmaskedOffset_textOf`), and no other offset of a pattern is needed to
say where it goes wrong.
-/

namespace IcuMessage

namespace Piece

/-- The text of pieces as it stands in the pattern. -/
def sources (pieces : List Piece) : List Char :=
  pieces.flatMap source

@[simp]
theorem sources_nil : sources [] = [] := rfl

@[simp]
theorem sources_cons (piece : Piece) (rest : List Piece) :
    sources (piece :: rest) = piece.source ++ sources rest :=
  List.flatMap_cons

@[simp]
theorem sources_append (front back : List Piece) :
    sources (front ++ back) = sources front ++ sources back :=
  List.flatMap_append

@[simp]
theorem sources_map_plain (text : List Char) : sources (text.map plain) = text := by
  induction text with
  | nil => rfl
  | cons character rest ih => rw [List.map_cons, sources_cons, ih]; rfl

/-- A section that is open reaches to its end, and no text of it is lost. -/
private theorem sources_readFrom
    (opened : Option (List Char))
    (text : List Char)
    (closed : opened.isSome → closesQuote text = true) :
    sources (readFrom opened text) =
      (opened.map fun content => '\'' :: content.reverse).getD [] ++ text := by
  fun_induction readFrom opened text with
  | case1 => rfl
  | case2 rest ih =>
      rw [sources_cons, ih (by simp)]
      rfl
  | case3 character rest _ opens ih =>
      rw [Bool.and_eq_true] at opens
      rw [ih fun _ => opens.2]
      rfl
  | case4 character rest _ _ ih =>
      rw [sources_cons, ih (by simp)]
      rfl
  | case5 character rest _ _ ih =>
      rw [sources_cons, ih (by simp)]
      rfl
  | case6 content => cases closed rfl
  | case7 content rest ih =>
      rw [sources_cons, ih (by simp)]
      simp [source]
  | case8 content character rest other ih =>
      have closed := closed rfl
      rw [closesQuote, Bool.or_eq_true, Bool.and_eq_true] at closed
      rw [ih fun _ => (closed.resolve_left (by simpa using other)).2]
      simp

/-- Pieces leave nothing of a pattern out. -/
theorem sources_read (pattern : List Char) : sources (read pattern) = pattern :=
  sources_readFrom none pattern (by simp)

theorem plain_or_quoted (piece : Piece) :
    (∃ character, piece = .plain character) ∨ piece.quote?.isSome := by
  cases piece with
  | plain character => exact Or.inl ⟨character, rfl⟩
  | apostrophe => exact Or.inr rfl
  | quoted content => exact Or.inr rfl

end Piece

namespace Masked

variable {piece : Piece}

/-- A section shows as its marker. -/
theorem textOf_quoted
    (quoted : piece.quote?.isSome)
    (index : Nat)
    (rest : List Piece) :
    textOf index (piece :: rest) = marker index ++ textOf (index + 1) rest := by
  cases piece with
  | plain character => cases quoted
  | apostrophe => rfl
  | quoted content => rfl

/-- A section shifts what follows it by the bytes that its marker saves or adds. -/
theorem shiftsOf_quoted
    (quoted : piece.quote?.isSome)
    (index position : Nat)
    (removed : Int)
    (rest : List Piece) :
    shiftsOf index position removed (piece :: rest) =
      ⟨position + Text.byteWidth (marker index),
          removed + Text.byteWidth piece.source - Text.byteWidth (marker index)⟩ ::
        shiftsOf (index + 1) (position + Text.byteWidth (marker index))
          (removed + Text.byteWidth piece.source - Text.byteWidth (marker index)) rest := by
  cases piece with
  | plain character => cases quoted
  | apostrophe => rfl
  | quoted content => rfl

theorem byteWidth_marker_pos (index : Nat) : 0 < Text.byteWidth (marker index) := by
  have first : 0 < ('_' : Char).utf8Size := by decide
  simp only [marker, List.cons_append, Text.byteWidth_cons]
  omega

/-- What is masked from a position on shifts offsets behind that position only. -/
theorem lt_finish_of_mem_shiftsOf
    {index position : Nat}
    {removed : Int}
    {pieces : List Piece}
    {shift : Shift}
    (member : shift ∈ shiftsOf index position removed pieces) :
    position < shift.finish := by
  induction pieces generalizing index position removed with
  | nil => cases member
  | cons piece rest ih =>
      rcases piece.plain_or_quoted with ⟨character, rfl⟩ | quoted
      · exact Nat.lt_of_le_of_lt (Nat.le_add_right _ _) (ih member)
      · have wide := byteWidth_marker_pos index
        rw [shiftsOf_quoted quoted, List.mem_cons] at member
        rcases member with rfl | later
        · exact Nat.lt_add_of_pos_right wide
        · exact Nat.lt_trans (Nat.lt_add_of_pos_right wide) (ih later)

/-- The bytes removed by the last of some shifts that is passed at an offset;
`removed` if there is none. -/
def removedAt (shifts : List Shift) (offset : Nat) (removed : Int) : Int :=
  ((shifts.takeWhile fun shift => shift.finish ≤ offset).getLast?.map Shift.removed).getD removed

/-- Nothing is shifted before the first marker ends. -/
theorem removedAt_of_forall_lt
    {shifts : List Shift}
    {offset : Nat}
    (ahead : ∀ shift ∈ shifts, offset < shift.finish)
    (removed : Int) :
    removedAt shifts offset removed = removed := by
  cases shifts with
  | nil => rfl
  | cons shift later =>
      have behind := ahead shift List.mem_cons_self
      rw [removedAt, List.takeWhile_cons_of_neg (by simpa using behind)]
      rfl

theorem removedAt_cons
    {shift : Shift}
    {offset : Nat}
    (passed : shift.finish ≤ offset)
    (later : List Shift)
    (removed : Int) :
    removedAt (shift :: later) offset removed = removedAt later offset shift.removed := by
  rw [removedAt, removedAt, List.takeWhile_cons_of_pos (by simpa using passed),
    List.getLast?_cons]
  cases (later.takeWhile fun shift => shift.finish ≤ offset).getLast? <;> rfl

/-- No marker of the pieces ends within a number of bytes from where their masked text
starts. -/
def NoMarkerEndsWithin (reach : Nat) (pieces : List Piece) : Prop :=
  ∀ index position removed, ∀ shift ∈ shiftsOf index position removed pieces,
    position + reach < shift.finish

theorem noMarkerEndsWithin_zero (pieces : List Piece) : NoMarkerEndsWithin 0 pieces :=
  fun _ _ _ _ member => lt_finish_of_mem_shiftsOf member

/-- As long as no further marker has ended, the pieces before make up what is removed. -/
theorem removedAt_shiftsOf
    {reach : Nat}
    {back : List Piece}
    (ahead : NoMarkerEndsWithin reach back)
    (index position : Nat)
    (removed : Int)
    (front : List Piece) :
    removedAt (shiftsOf index position removed (front ++ back))
        (position + Text.byteWidth (textOf index front) + reach) removed =
      removed + Text.byteWidth (Piece.sources front) - Text.byteWidth (textOf index front) := by
  induction front generalizing index position removed with
  | nil =>
      rw [List.nil_append, textOf, removedAt_of_forall_lt]
      · simp
      · exact ahead index position removed
  | cons piece rest ih =>
      rcases piece.plain_or_quoted with ⟨character, rfl⟩ | quoted
      · have passed := ih index (position + character.utf8Size) removed
        rw [List.cons_append, shiftsOf, textOf, Text.byteWidth_cons, ← Nat.add_assoc position,
          passed, Piece.sources_cons, Piece.source, Text.byteWidth_append, Text.byteWidth_cons,
          Text.byteWidth_nil]
        omega
      · have passed := ih (index + 1) (position + Text.byteWidth (marker index))
          (removed + Text.byteWidth piece.source - Text.byteWidth (marker index))
        have ended : position + Text.byteWidth (marker index) ≤
            position + Text.byteWidth (marker index) +
              Text.byteWidth (textOf (index + 1) rest) + reach := by
          omega
        rw [List.cons_append, shiftsOf_quoted quoted, textOf_quoted quoted, Text.byteWidth_append,
          ← Nat.add_assoc position, removedAt_cons ended, passed, Piece.sources_cons,
          Text.byteWidth_append]
        omega

/-- As long as no further marker has ended, a byte is as far behind the pieces before it
in the pattern as in the masked text. -/
theorem unmaskedOffset_within
    {pattern : List Char}
    {front back : List Piece}
    {reach : Nat}
    (pieces : Piece.read pattern = front ++ back)
    (ahead : NoMarkerEndsWithin reach back) :
    (ofPattern pattern).unmaskedOffset (Text.byteWidth (textOf 0 front) + reach) =
      Text.byteWidth (Piece.sources front) + reach := by
  have removed := removedAt_shiftsOf ahead 0 0 0 front
  rw [Nat.zero_add, ← pieces] at removed
  show (((Text.byteWidth (textOf 0 front) + reach : Nat) : Int) +
    removedAt (shiftsOf 0 0 0 (Piece.read pattern))
      (Text.byteWidth (textOf 0 front) + reach) 0).toNat = _
  rw [removed]
  omega

/-- A place between pieces has as many bytes before it in the pattern as the
pieces before it have. -/
theorem unmaskedOffset_textOf
    {pattern : List Char}
    {front back : List Piece}
    (pieces : Piece.read pattern = front ++ back) :
    (ofPattern pattern).unmaskedOffset (Text.byteWidth (textOf 0 front)) =
      Text.byteWidth (Piece.sources front) :=
  unmaskedOffset_within pieces (noMarkerEndsWithin_zero back)

end Masked

/-- No marker starts in the text: it does not hold the marker character, nor
does it end with a score, which that character might follow. -/
structure ClearOfMarkers (text : List Char) : Prop where
  unmarked : markerCharacter ∉ text
  ended : text.getLast? ≠ some '_'

/-- A text without scores and marker characters holds no part of a marker. -/
theorem clearOfMarkers_of_no_score
    {text : List Char}
    (plain : ∀ character ∈ text, character ≠ markerCharacter ∧ character ≠ '_') :
    ClearOfMarkers text := by
  constructor
  · exact fun member => (plain _ member).1 rfl
  · exact fun last => (plain _ (List.mem_of_getLast? last)).2 rfl

namespace Masked

/-- A character that a text does not hold stands behind it. -/
private theorem exists_append_of_not_mem
    {character : Char}
    {front back before behind : List Char}
    (absent : character ∉ front)
    (same : front ++ back = before ++ character :: behind) :
    ∃ middle, before = front ++ middle ∧ back = middle ++ character :: behind := by
  induction front generalizing before with
  | nil => exact ⟨before, rfl, same⟩
  | cons first front ih =>
      rw [List.mem_cons, not_or] at absent
      cases before with
      | nil => exact absurd (List.cons.inj same).1.symm absent.1
      | cons head before =>
          rcases List.cons.inj same with
            ⟨rfl, tails⟩
          rcases ih absent.2 tails with
            ⟨middle, rfl, rfl⟩
          exact ⟨middle, rfl, rfl⟩

/-- A character that is in no marker is shown by its own piece only. -/
theorem exists_plain_of_textOf_eq
    {character : Char}
    (unmarked : Unmarked character)
    {index : Nat}
    {pieces : List Piece}
    {before behind : List Char}
    (shown : textOf index pieces = before ++ character :: behind) :
    ∃ front back,
      pieces = front ++ .plain character :: back ∧ textOf index front = before ∧
        textOf (index + (front.filterMap Piece.quote?).length) back = behind := by
  induction pieces generalizing index before with
  | nil => simp [textOf] at shown
  | cons piece rest ih =>
      rcases piece.plain_or_quoted with ⟨first, rfl⟩ | quoted
      · rw [textOf] at shown
        cases before with
        | nil =>
            rcases List.cons.inj shown with
              ⟨rfl, rfl⟩
            exact ⟨[], rest, rfl, rfl, rfl⟩
        | cons head before =>
            rcases List.cons.inj shown with
              ⟨rfl, later⟩
            rcases ih later with
              ⟨front, back, rfl, rfl, rfl⟩
            exact ⟨.plain first :: front, back, rfl, rfl, rfl⟩
      · rw [textOf_quoted quoted] at shown
        rcases exists_append_of_not_mem (unmarked.not_mem_marker index) shown with
          ⟨middle, rfl, later⟩
        rcases ih later with
          ⟨front, back, rfl, rfl, rfl⟩
        refine ⟨piece :: front, back, rfl, textOf_quoted quoted index front, ?_⟩
        rcases Option.isSome_iff_exists.mp quoted with
          ⟨content, own⟩
        rw [List.filterMap_cons_some own, List.length_cons, Nat.add_assoc, Nat.add_comm 1]

/-- Text in which no marker starts is shown by the pieces of its characters. -/
theorem exists_map_plain_of_textOf_eq
    {run : List Char}
    (clear : ClearOfMarkers run)
    {index : Nat}
    {pieces : List Piece}
    {rest : List Char}
    (shown : textOf index pieces = run ++ rest) :
    ∃ back, pieces = run.map .plain ++ back ∧ textOf index back = rest := by
  induction run generalizing pieces with
  | nil => exact ⟨pieces, rfl, shown⟩
  | cons first run ih =>
      rcases clear with
        ⟨unmarked, ended⟩
      rw [List.mem_cons, not_or] at unmarked
      cases pieces with
      | nil => simp [textOf] at shown
      | cons piece later =>
          rcases piece.plain_or_quoted with ⟨character, rfl⟩ | quoted
          · rcases List.cons.inj shown with
              ⟨rfl, follows⟩
            have behind : run.getLast? ≠ some '_' := by
              intro last
              rw [List.getLast?_cons, last] at ended
              exact ended rfl
            rcases ih ⟨unmarked.2, behind⟩ follows with
              ⟨back, rfl, rfl⟩
            exact ⟨back, rfl, rfl⟩
          · -- A marker would start with the first character and go on with the next one.
            rw [textOf_quoted quoted] at shown
            rcases List.cons.inj shown with
              ⟨rfl, follows⟩
            cases run with
            | nil => exact absurd rfl ended
            | cons second run =>
                have same : markerCharacter = second := (List.cons.inj follows).1
                exact absurd List.mem_cons_self (same ▸ unmarked.2)

end Masked

namespace Piece

/-- At a byte offset of the masked text, a place between pieces, the masked text
goes on with the given one. -/
def Shows (pieces : List Piece) (offset : Nat) (text : List Char) : Prop :=
  ∃ front back,
    pieces = front ++ back ∧ Text.byteWidth (Masked.textOf 0 front) = offset ∧
      text <+: Masked.textOf (front.filterMap quote?).length back

/-- At a byte offset of the masked text, the pieces go on with characters that
stand for themselves. -/
def Spells (pieces : List Piece) (offset : Nat) (text : List Char) : Prop :=
  ∃ front back,
    pieces = front ++ (text.map .plain ++ back) ∧
      Text.byteWidth (Masked.textOf 0 front) = offset

variable
    {pieces : List Piece}
    {offset : Nat}
    {text before after : List Char}

theorem shows_whole (pieces : List Piece) : Shows pieces 0 (Masked.textOf 0 pieces) :=
  ⟨[], pieces, rfl, rfl, List.prefix_refl _⟩

namespace Shows

theorem spells_nil (shows : Shows pieces offset text) : Spells pieces offset [] := by
  rcases shows with
    ⟨front, back, same, width, _⟩
  exact ⟨front, back, same, width⟩

theorem append_left (shows : Shows pieces offset (before ++ after)) :
    Shows pieces offset before := by
  rcases shows with
    ⟨front, back, same, width, following⟩
  exact ⟨front, back, same, width, (List.prefix_append _ _).trans following⟩

/-- On both sides of a character that is in no marker there is a place. -/
theorem beside
    {character : Char}
    (unmarked : Unmarked character)
    (shows : Shows pieces offset (before ++ character :: after)) :
    Shows pieces (offset + Text.byteWidth before) (character :: after) ∧
      Shows pieces (offset + Text.byteWidth before + character.utf8Size) after := by
  rcases shows with
    ⟨front, back, rfl, rfl, more, following⟩
  rw [List.append_assoc, List.cons_append] at following
  rcases Masked.exists_plain_of_textOf_eq unmarked following.symm with
    ⟨inner, rest, rfl, rfl, later⟩
  have counted : ((front ++ inner).filterMap quote?).length =
      (front.filterMap quote?).length + (inner.filterMap quote?).length := by
    simp
  constructor
  · refine ⟨front ++ inner, .plain character :: rest, by simp, ?_, ?_⟩
    · simp [textOf_append]
    · rw [counted, Masked.textOf, later]
      exact ⟨more, rfl⟩
  · refine ⟨front ++ inner ++ [.plain character], rest, by simp, ?_, ?_⟩
    · simp [textOf_append, Masked.textOf, Nat.add_assoc]
    · rw [List.filterMap_append, List.length_append, counted]
      simp only [List.filterMap_cons, quote?, List.filterMap_nil, List.length_nil, Nat.add_zero,
        later]
      exact ⟨more, rfl⟩

/-- Behind a character that occurs in no marker, the rest of the text shows. -/
theorem behind
    {character : Char}
    (unmarked : Unmarked character)
    {rest : List Char}
    (shows : Shows pieces offset ((before ++ [character]) ++ rest)) :
    Shows pieces (offset + Text.byteWidth (before ++ [character])) rest := by
  rw [List.append_assoc, List.singleton_append] at shows
  rw [Text.byteWidth_append, ← Nat.add_assoc]
  exact (shows.beside unmarked).2

/-- Text in which no marker starts stands for itself, and ends at a place. -/
theorem run
    (clear : ClearOfMarkers before)
    (shows : Shows pieces offset (before ++ after)) :
    Spells pieces offset before ∧ Shows pieces (offset + Text.byteWidth before) after := by
  rcases shows with
    ⟨front, back, rfl, rfl, more, following⟩
  rw [List.append_assoc] at following
  rcases Masked.exists_map_plain_of_textOf_eq clear following.symm with
    ⟨rest, rfl, later⟩
  refine ⟨⟨front, rest, rfl, rfl⟩, front ++ before.map .plain, rest, by simp, ?_, ?_⟩
  · rw [textOf_append, Masked.textOf_map_plain, Text.byteWidth_append]
  · rw [List.filterMap_append, filterMap_quote?_map_plain, List.append_nil, later]
    exact List.prefix_append _ _

/-- A character that occurs in no marker is spelled in the pattern where it shows. -/
theorem spells_unmarked
    {character : Char}
    (unmarked : Unmarked character)
    (shows : Shows pieces offset (before ++ character :: after)) :
    Spells pieces (offset + Text.byteWidth before) [character] := by
  have clear : ClearOfMarkers [character] :=
    clearOfMarkers_of_no_score (by simpa using ⟨unmarked.noMarker, unmarked.noScore⟩)
  exact (run clear (shows.beside unmarked).1).1

end Shows

end Piece

end IcuMessage
