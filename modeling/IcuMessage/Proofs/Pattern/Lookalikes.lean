import IcuMessage.Proofs.Pattern.Quoting

/-!
# Text that looks like markers

Text may hold the marker character itself, so that it looks like a marker.  Once the
text is escaped and masked, what looks like a marker is replaced as if it were one, if
there is a section of its number.  If its digits run into an escaped character, the
first score of a real marker ends it, and the rest of that marker is left over.

`Unmistaken` says that neither happens.  It is exactly then that text survives being
escaped, masked and unmasked (`unmask_of_unmistaken`, `unmistaken_of_unmask`).
-/

namespace IcuMessage

/-- The character does not stand for itself in escaped text. -/
def isEscaped (character : Char) : Bool :=
  character == '\'' || Piece.opensQuote character

/-- A text starts like a marker with some digits.  The character behind them is a score,
or a marker takes its place. -/
structure LooksLikeMarker (digits text : List Char) : Prop where
  filled : digits ≠ []
  decimal : ∀ digit ∈ digits, Text.isDecimalDigit digit = true
  shape : ∃ next rest, text = '_' :: markerCharacter :: '_' :: (digits ++ next :: rest) ∧
    (next = '_' ∨ isEscaped next = true)

/-- From left to right, what looks like a marker ends with a score of its own, and is
numbered past the last of the sections. -/
inductive Unmistaken (sections : Nat) : List Char → Prop where
  | nil : Unmistaken sections []
  | character {character : Char} {rest : List Char}
      (noLookalike : ∀ digits, ¬ LooksLikeMarker digits (character :: rest))
      (later : Unmistaken sections rest) :
      Unmistaken sections (character :: rest)
  | lookalike {digits rest : List Char}
      (filled : digits ≠ [])
      (decimal : ∀ digit ∈ digits, Text.isDecimalDigit digit = true)
      (noSection : ∀ index, Text.readNat? digits = some index → sections ≤ index)
      (later : Unmistaken sections rest) :
      Unmistaken sections ('_' :: markerCharacter :: '_' :: (digits ++ '_' :: rest))

/-- Induction on a text in the steps in which look-alikes are found in it. -/
@[elab_as_elim]
theorem lookalike_induct
    {motive : List Char → Prop}
    (nil : motive [])
    (character : ∀ character rest,
      (∀ digits, ¬ LooksLikeMarker digits (character :: rest)) →
        motive rest → motive (character :: rest))
    (lookalike : ∀ digits next rest,
      LooksLikeMarker digits ('_' :: markerCharacter :: '_' :: (digits ++ next :: rest)) →
        motive rest → motive ('_' :: markerCharacter :: '_' :: (digits ++ next :: rest)))
    (text : List Char) :
    motive text := by
  induction size : text.length using Nat.strongRecOn generalizing text with
  | _ size shorter =>
      subst size
      cases text with
      | nil => exact nil
      | cons first rest =>
          by_cases look : ∃ digits, LooksLikeMarker digits (first :: rest)
          case neg =>
            rw [not_exists] at look
            exact character first rest look (shorter rest.length (by simp) rest rfl)
          case pos =>
            rcases look with
              ⟨digits, looks⟩
            rcases looks.shape with
              ⟨next, later, shape, _⟩
            rw [shape] at looks shorter ⊢
            refine lookalike digits next later looks (shorter later.length ?_ later rfl)
            simp
            omega

/-- Nothing is mistaken for a marker where the marker character is missing. -/
theorem unmistaken_of_not_mem
    {text : List Char}
    (unmarked : markerCharacter ∉ text)
    (sections : Nat) :
    Unmistaken sections text := by
  induction text with
  | nil => exact .nil
  | cons character rest ih =>
      refine .character ?_ (ih fun member => unmarked (.tail _ member))
      rintro digits ⟨_, _, next, later, shape, _⟩
      rw [shape] at unmarked
      simp at unmarked

/-- Text of which nothing is escaped may look like markers wherever it likes. -/
theorem unmistaken_of_plain
    {text : List Char}
    (plain : ∀ character ∈ text, isEscaped character = false) :
    Unmistaken 0 text := by
  induction text using lookalike_induct with
  | nil => exact .nil
  | character character rest noLookalike later =>
      exact .character noLookalike (later fun other member => plain other (.tail _ member))
  | lookalike digits next rest looks later =>
      have noEscape : isEscaped next = false := plain next (by simp)
      rcases looks.shape with
        ⟨other, _, same, ends⟩
      obtain ⟨rfl, _⟩ : next = other ∧ rest = _ := by simpa using same
      obtain rfl : next = '_' := by simpa [noEscape] using ends
      exact .lookalike looks.filled looks.decimal (fun _ _ => Nat.zero_le _)
        (later fun other member => plain other (by simp [member]))

/-! ## Escaped characters -/

theorem unmarked_of_isEscaped
    {character : Char}
    (escaped : isEscaped character = true) :
    Unmarked character := by
  rw [isEscaped, Bool.or_eq_true, beq_iff_eq] at escaped
  rcases escaped with rfl | opens
  · constructor <;> decide
  · exact unmarked_of_opensQuote opens

theorem isEscaped_of_isDecimalDigit
    {digit : Char}
    (decimal : Text.isDecimalDigit digit = true) :
    isEscaped digit = false := by
  rw [Bool.eq_false_iff]
  intro escaped
  rw [(unmarked_of_isEscaped escaped).noDigit] at decimal
  cases decimal

/-- A character is a section of its own if it is escaped. -/
theorem quote?_escapedPiece (character : Char) :
    (escapedPiece character).quote? = if isEscaped character then some [character] else none := by
  rw [escapedPiece, isEscaped]
  by_cases quote : character = '\''
  · subst quote
    rfl
  · rw [if_neg quote, beq_false_of_ne quote, Bool.false_or]
    split <;> rfl

/-- The sections of escaped text are its escaped characters, in their order. -/
theorem quotesIn_escaped_eq_map (text : List Char) :
    quotesIn (text.flatMap escapeCharacter) =
      (text.filter isEscaped).map fun character => [character] := by
  rw [quotesIn_escaped]
  induction text with
  | nil => rfl
  | cons character rest ih =>
      rw [List.map_cons, List.filterMap_cons, quote?_escapedPiece, ih]
      cases escaped : isEscaped character with
      | true => rw [List.filter_cons_of_pos escaped]; rfl
      | false => rw [List.filter_cons_of_neg (by simp [escaped])]; rfl

/-- There are as many sections as characters that are escaped. -/
theorem length_quotesIn_escaped (text : List Char) :
    (quotesIn (text.flatMap escapeCharacter)).length = text.countP isEscaped := by
  rw [quotesIn_escaped_eq_map, List.length_map, List.countP_eq_length_filter]

/-- An escaped character is masked by a marker. -/
theorem masked_escaped_cons
    {character : Char}
    (escaped : isEscaped character = true)
    (index : Nat)
    (rest : List Char) :
    masked index ((character :: rest).flatMap escapeCharacter) =
      marker index ++ masked (index + 1) (rest.flatMap escapeCharacter) := by
  rw [masked_escaped, masked_escaped, List.map_cons]
  rcases escapedPiece_cases character with ⟨quoted, _⟩ | ⟨plain, _⟩
  · exact quoted index _
  · have none := quote?_escapedPiece character
    rw [plain, escaped] at none
    cases none

/-- Characters that need no escape are written as they are. -/
theorem flatMap_escapeCharacter_of_plain
    {run : List Char}
    (plain : ∀ character ∈ run, isEscaped character = false) :
    run.flatMap escapeCharacter = run := by
  induction run with
  | nil => rfl
  | cons character rest ih =>
      have own := plain character List.mem_cons_self
      rw [isEscaped, Bool.or_eq_false_iff, beq_eq_false_iff_ne] at own
      rw [List.flatMap_cons, ih (fun other member => plain other (.tail _ member)),
        escapeCharacter, if_neg own.1, if_neg (mt opensQuote_iff.mpr (by simp [own.2]))]
      rfl

theorem apostrophe_not_mem_of_plain
    {run : List Char}
    (plain : ∀ character ∈ run, isEscaped character = false) :
    '\'' ∉ run :=
  fun member => Bool.noConfusion (plain _ member)

/-- Characters that need no escape are not masked. -/
theorem masked_escaped_append_of_plain
    {run : List Char}
    (plain : ∀ character ∈ run, isEscaped character = false)
    (index : Nat)
    (rest : List Char) :
    masked index ((run ++ rest).flatMap escapeCharacter) =
      run ++ masked index (rest.flatMap escapeCharacter) := by
  rw [List.flatMap_append, flatMap_escapeCharacter_of_plain plain,
    masked_plain_append (apostrophe_not_mem_of_plain plain)]

theorem masked_escaped_cons_of_plain
    {character : Char}
    (plain : isEscaped character = false)
    (index : Nat)
    (rest : List Char) :
    masked index ((character :: rest).flatMap escapeCharacter) =
      character :: masked index (rest.flatMap escapeCharacter) := by
  have alone : ∀ single ∈ [character], isEscaped single = false := by
    simpa using plain
  exact masked_escaped_append_of_plain alone index rest

section Sections

variable {quotes : List (List Char)} {index : Nat}

theorem Quotes.behind_plain
    {run rest : List Char}
    (plain : ∀ character ∈ run, isEscaped character = false)
    (held : Quotes quotes index ((run ++ rest).flatMap escapeCharacter)) :
    Quotes quotes index (rest.flatMap escapeCharacter) := by
  rw [List.flatMap_append, flatMap_escapeCharacter_of_plain plain] at held
  exact held.behind (apostrophe_not_mem_of_plain plain)

theorem Quotes.behind_character
    {character : Char}
    {rest : List Char}
    (plain : isEscaped character = false)
    (held : Quotes quotes index ((character :: rest).flatMap escapeCharacter)) :
    Quotes quotes index (rest.flatMap escapeCharacter) := by
  have alone : ∀ single ∈ [character], isEscaped single = false := by
    simpa using plain
  exact Quotes.behind_plain alone held

/-- An escaped character uses one section, which holds the character alone. -/
theorem Quotes.behind_escaped
    {character : Char}
    {rest : List Char}
    (escaped : isEscaped character = true)
    (held : Quotes quotes index ((character :: rest).flatMap escapeCharacter)) :
    quotes[index]? = some [character] ∧
      Quotes quotes (index + 1) (rest.flatMap escapeCharacter) := by
  rw [Quotes, quotesIn_escaped_eq_map, List.filter_cons_of_pos escaped, List.map_cons] at held
  rw [Quotes, quotesIn_escaped_eq_map]
  exact getElem?_and_drop_of_prefix held

end Sections

/-! ## What is read as a marker -/

/-- Of masked text, a character that is no score stands in the text itself. -/
theorem exists_of_masked_escaped_eq_append
    {index : Nat}
    {text run behind : List Char}
    (noScore : '_' ∉ run)
    (same : masked index (text.flatMap escapeCharacter) = run ++ behind) :
    ∃ rest, text = run ++ rest ∧ masked index (rest.flatMap escapeCharacter) = behind := by
  induction run generalizing text with
  | nil => exact ⟨text, rfl, same⟩
  | cons first run ih =>
      rw [List.mem_cons, not_or] at noScore
      rcases noScore with
        ⟨other, noScore⟩
      cases text with
      | nil => cases same
      | cons character rest =>
          cases escaped : isEscaped character with
          | true =>
              rw [masked_escaped_cons escaped] at same
              exact absurd (List.cons.inj same).1 other
          | false =>
              rw [masked_escaped_cons_of_plain escaped, List.cons_append] at same
              rcases List.cons.inj same with
                ⟨rfl, inRest⟩
              rcases ih noScore inRest with
                ⟨later, rfl, found⟩
              exact ⟨later, rfl, found⟩

/-- A score of masked text stands in the text itself, or begins the marker of a section. -/
theorem exists_of_masked_escaped_eq_score
    {index : Nat}
    {text behind : List Char}
    (same : masked index (text.flatMap escapeCharacter) = '_' :: behind) :
    ∃ next rest, text = next :: rest ∧
      (next = '_' ∧ masked index (rest.flatMap escapeCharacter) = behind ∨
        isEscaped next = true ∧ behind.head? = some markerCharacter) := by
  cases text with
  | nil => cases same
  | cons next rest =>
      refine ⟨next, rest, rfl, ?_⟩
      cases escaped : isEscaped next with
      | true =>
          rw [masked_escaped_cons escaped] at same
          exact Or.inr ⟨rfl, by rw [← (List.cons.inj same).2]; rfl⟩
      | false =>
          rw [masked_escaped_cons_of_plain escaped] at same
          exact Or.inl (List.cons.inj same)

/-- No character of what looks like a marker is escaped. -/
theorem plain_of_lookalike
    {digits : List Char}
    (decimal : ∀ digit ∈ digits, Text.isDecimalDigit digit = true) :
    ∀ character ∈ '_' :: markerCharacter :: '_' :: digits, isEscaped character = false := by
  intro character member
  simp only [List.mem_cons] at member
  rcases member with rfl | rfl | rfl | digit
  · decide
  · decide
  · decide
  · exact isEscaped_of_isDecimalDigit (decimal character digit)

/-- If escaped text that is masked starts with a marker where no section begins, the text
itself looks like one. -/
theorem looksLikeMarker_of_markerDigits?
    {index : Nat}
    {character : Char}
    {rest digits : List Char}
    (plain : isEscaped character = false)
    (marked :
      markerDigits? (masked index ((character :: rest).flatMap escapeCharacter)) = some digits) :
    LooksLikeMarker digits (character :: rest) := by
  rcases markerDigits?_eq_some_iff.mp marked with
    ⟨filled, decimal, behind, same⟩
  have noScore : '_' ∉ digits := fun member => absurd (decimal _ member) (by decide)
  rw [masked_escaped_cons_of_plain plain] at same
  rcases List.cons.inj same with
    ⟨rfl, behindScore⟩
  obtain ⟨inText, rfl, behindMiddle⟩ :=
    @exists_of_masked_escaped_eq_append index _ [markerCharacter] _ (by decide) behindScore
  rcases exists_of_masked_escaped_eq_score behindMiddle with
    ⟨_, _, rfl, ⟨rfl, inDigits⟩ | ⟨_, second⟩⟩
  case inr =>
    -- The digits cannot begin with the second character of a marker.
    cases digits with
    | nil => exact absurd rfl filled
    | cons first later =>
        obtain rfl : first = markerCharacter := by simpa using second
        exact absurd (decimal _ List.mem_cons_self) (by decide)
  rcases exists_of_masked_escaped_eq_append noScore inDigits with
    ⟨_, rfl, behindDigits⟩
  rcases exists_of_masked_escaped_eq_score behindDigits with
    ⟨next, later, rfl, ended⟩
  exact ⟨filled, decimal, next, later, rfl, ended.imp And.left And.left⟩

/-- What looks like a marker in a text is read as one in its mask. -/
theorem LooksLikeMarker.marked
    {digits text : List Char}
    (looks : LooksLikeMarker digits text)
    (index : Nat) :
    markerDigits? (masked index (text.flatMap escapeCharacter)) = some digits := by
  rcases looks with
    ⟨filled, decimal, next, rest, rfl, ends⟩
  rw [markerDigits?_eq_some_iff]
  refine ⟨filled, decimal, ?_⟩
  have whole := masked_escaped_append_of_plain (plain_of_lookalike decimal) index (next :: rest)
  simp only [List.cons_append] at whole
  rw [whole]
  rcases ends with rfl | escaped
  · exact ⟨_, by rw [masked_escaped_cons_of_plain (by decide)]⟩
  · exact ⟨_, by rw [masked_escaped_cons escaped]; rfl⟩

/-! ## Unmasking -/

section Sections

variable {quotes : List (List Char)} {index : Nat}

/-- A character at which nothing looks like a marker reads back as itself. -/
theorem unmask_masked_escaped_cons
    {character : Char}
    {rest : List Char}
    (noLookalike : ∀ digits, ¬ LooksLikeMarker digits (character :: rest))
    (held : Quotes quotes index ((character :: rest).flatMap escapeCharacter)) :
    ∃ further,
      unmask quotes (masked index ((character :: rest).flatMap escapeCharacter)) =
          character :: unmask quotes (masked further (rest.flatMap escapeCharacter)) ∧
        Quotes quotes further (rest.flatMap escapeCharacter) := by
  cases escaped : isEscaped character with
  | true =>
      rcases held.behind_escaped escaped with
        ⟨found, later⟩
      refine ⟨index + 1, ?_, later⟩
      rw [masked_escaped_cons escaped, unmask_marker found]
      rfl
  | false =>
      refine ⟨index, ?_, held.behind_character escaped⟩
      have noMarker : markerDigits?
          (masked index ((character :: rest).flatMap escapeCharacter)) = none := by
        rw [Option.eq_none_iff_forall_ne_some]
        intro digits marked
        exact noLookalike digits (looksLikeMarker_of_markerDigits? escaped marked)
      rw [masked_escaped_cons_of_plain escaped] at noMarker ⊢
      exact unmask_cons_of_none noMarker

/-- What looks like a marker is unmasked as one. -/
theorem unmask_masked_escaped_lookalike
    {digits rest : List Char}
    (filled : digits ≠ [])
    (decimal : ∀ digit ∈ digits, Text.isDecimalDigit digit = true) :
    unmask quotes (masked index
        (('_' :: markerCharacter :: '_' :: (digits ++ '_' :: rest)).flatMap escapeCharacter)) =
      markerMeaning quotes digits ++
        unmask quotes (masked index (rest.flatMap escapeCharacter)) := by
  have looks : LooksLikeMarker digits ('_' :: markerCharacter :: '_' :: (digits ++ '_' :: rest)) :=
    ⟨filled, decimal, _, _, rfl, Or.inl rfl⟩
  have whole := masked_escaped_append_of_plain (plain_of_lookalike decimal) index ('_' :: rest)
  rw [masked_escaped_cons_of_plain (by decide)] at whole
  simp only [List.cons_append] at whole
  rw [unmask_of_marker (looks.marked index), whole, drop_marker]

/-- What looks like a marker uses no section. -/
theorem Quotes.behind_lookalike
    {digits rest : List Char}
    (decimal : ∀ digit ∈ digits, Text.isDecimalDigit digit = true)
    (held : Quotes quotes index
      (('_' :: markerCharacter :: '_' :: (digits ++ '_' :: rest)).flatMap escapeCharacter)) :
    Quotes quotes index (rest.flatMap escapeCharacter) := by
  have inScore : Quotes quotes index (('_' :: rest).flatMap escapeCharacter) :=
    Quotes.behind_plain (plain_of_lookalike decimal) (by simpa using held)
  exact inScore.behind_character (by decide)

/-- What looks like a marker but numbers no section is left as it is. -/
theorem markerMeaning_of_no_section
    {digits : List Char}
    (noSection : ∀ index, Text.readNat? digits = some index → quotes.length ≤ index) :
    markerMeaning quotes digits = '_' :: markerCharacter :: '_' :: (digits ++ ['_']) := by
  have missing : ((Text.readNat? digits).bind fun index => quotes[index]?) = none := by
    rw [Option.bind_eq_none_iff]
    exact fun index read => List.getElem?_eq_none (noSection index read)
  rw [markerMeaning, missing]
  rfl

/-- A marker that stands for text that starts like itself has no section. -/
theorem no_section_of_markerMeaning
    (escapes : ∀ quote ∈ quotes, ∃ first rest, quote = first :: rest ∧ isEscaped first = true)
    {digits more behind : List Char}
    (same : markerMeaning quotes digits ++ more = '_' :: behind) :
    ∀ index, Text.readNat? digits = some index → quotes.length ≤ index := by
  intro index read
  by_contra inside
  have found : quotes[index]? = some quotes[index] := List.getElem?_eq_getElem (by omega)
  rcases escapes _ (List.mem_of_getElem? found) with
    ⟨first, rest, content, escaped⟩
  rw [markerMeaning, read, Option.bind_some, found, content] at same
  exact (unmarked_of_isEscaped escaped).noScore (List.cons.inj same).1

/-- Text survives being escaped, masked and unmasked if no part of it is mistaken for a
marker. -/
theorem unmask_of_unmistaken
    {text : List Char}
    (unmistaken : Unmistaken quotes.length text)
    (held : Quotes quotes index (text.flatMap escapeCharacter)) :
    unmask quotes (masked index (text.flatMap escapeCharacter)) = text := by
  induction unmistaken generalizing index with
  | nil => rfl
  | character noLookalike later ih =>
      rcases unmask_masked_escaped_cons noLookalike held with
        ⟨further, restored, behind⟩
      rw [restored, ih behind]
  | lookalike filled decimal noSection later ih =>
      rw [unmask_masked_escaped_lookalike filled decimal, markerMeaning_of_no_section noSection,
        ih (held.behind_lookalike decimal)]
      simp

/-- What looks like a marker and survives ends with a score of its own, and has no
section. -/
theorem LooksLikeMarker.of_unmask
    (escapes : ∀ quote ∈ quotes, ∃ first rest, quote = first :: rest ∧ isEscaped first = true)
    {digits text : List Char}
    (looks : LooksLikeMarker digits text)
    (restored : unmask quotes (masked index (text.flatMap escapeCharacter)) = text) :
    (∀ index, Text.readNat? digits = some index → quotes.length ≤ index) ∧
      ∃ rest, text = '_' :: markerCharacter :: '_' :: (digits ++ '_' :: rest) := by
  rw [unmask_of_marker (looks.marked index)] at restored
  rcases looks.shape with
    ⟨next, rest, same, _⟩
  have noSection := no_section_of_markerMeaning escapes (restored.trans same)
  refine ⟨noSection, rest, ?_⟩
  have ended := restored.trans same
  rw [markerMeaning_of_no_section noSection] at ended
  simp only [List.cons_append, List.append_assoc, List.cons.injEq, true_and,
    List.append_cancel_left_eq, List.nil_append] at ended
  rw [same, ended.1]

/-- If text survives being escaped, masked and unmasked, no part of it has been mistaken
for a marker. -/
theorem unmistaken_of_unmask
    (escapes : ∀ quote ∈ quotes, ∃ first rest, quote = first :: rest ∧ isEscaped first = true)
    {text : List Char}
    (held : Quotes quotes index (text.flatMap escapeCharacter))
    (restored : unmask quotes (masked index (text.flatMap escapeCharacter)) = text) :
    Unmistaken quotes.length text := by
  induction text using lookalike_induct generalizing index with
  | nil => exact .nil
  | character character rest noLookalike later =>
      rcases unmask_masked_escaped_cons noLookalike held with
        ⟨further, unmasked, behind⟩
      rw [unmasked] at restored
      exact .character noLookalike (later behind (List.cons.inj restored).2)
  | lookalike digits next rest looks later =>
      rcases looks.of_unmask escapes restored with
        ⟨noSection, behind, same⟩
      obtain ⟨rfl, _⟩ : next = '_' ∧ rest = behind := by simpa using same
      rw [unmask_masked_escaped_lookalike looks.filled looks.decimal,
        markerMeaning_of_no_section noSection] at restored
      exact .lookalike looks.filled looks.decimal noSection
        (later (held.behind_lookalike looks.decimal) (by simpa using restored))

end Sections

end IcuMessage
