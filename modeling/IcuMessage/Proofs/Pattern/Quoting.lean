import IcuMessage.Message.Printer
import IcuMessage.Proofs.Pattern.Unmasking
import IcuMessage.Proofs.Text.Integers

/-!
# Quoted text and its mask

Patterns are cut into pieces from left to right, so the pieces of a text depend
on what stands before it.  A text is complete if no quoted section reaches
beyond its end: then it is cut, and masked, by itself.  Escaped text is complete,
and so is text without apostrophes.

The marker of a section is unmasked as its content (`unmask_marker`).  No quoted
section is empty, so unmasking leaves some text of every text (`unmask_ne_nil`).
-/

namespace IcuMessage

/-- The pieces of a text do not depend on what follows it. -/
def Complete (text : List Char) : Prop :=
  ∀ more, Piece.read (text ++ more) = Piece.read text ++ Piece.read more

/-- A text with markers in place of its quoted sections, numbered from an index on. -/
def masked (index : Nat) (text : List Char) : List Char :=
  Masked.textOf index (Piece.read text)

/-- The quoted sections of a text. -/
def quotesIn (text : List Char) : List (List Char) :=
  (Piece.read text).filterMap Piece.quote?

/-- From an index on, the quoted sections are those of a text. -/
def Quotes (quotes : List (List Char)) (index : Nat) (text : List Char) : Prop :=
  quotesIn text <+: quotes.drop index

/-- The first of the sections from an index on, and those behind it. -/
theorem getElem?_and_drop_of_prefix
    {quotes later : List (List Char)}
    {quote : List Char}
    {index : Nat}
    (held : quote :: later <+: quotes.drop index) :
    quotes[index]? = some quote ∧ later <+: quotes.drop (index + 1) := by
  rcases held with
    ⟨more, same⟩
  constructor
  · rw [← List.head?_drop, ← same]
    rfl
  · rw [← List.drop_drop, ← same]
    exact List.prefix_append later more

theorem complete_nil : Complete [] :=
  fun _ => rfl

/-- No quoted section of one complete text reaches into the other. -/
theorem Complete.append
    {front back : List Char}
    (first : Complete front)
    (second : Complete back) :
    Complete (front ++ back) := by
  intro more
  rw [List.append_assoc, first, second, first, List.append_assoc]

/-- A character that is not an apostrophe is a piece of its own. -/
theorem read_cons_plain
    {character : Char}
    (plain : character ≠ '\'')
    (rest : List Char) :
    Piece.read (character :: rest) = .plain character :: Piece.read rest := by
  rw [Piece.read, Piece.readFrom.eq_def]
  split <;> simp_all [Piece.read]

/-- The piece that stands for one character of literal text. -/
def escapedPiece (character : Char) : Piece :=
  if character = '\'' then .apostrophe
  else if Piece.opensQuote character then .quoted [character]
  else .plain character

/-- The characters that an apostrophe can quote are those of the notation. -/
theorem opensQuote_iff
    {character : Char} :
    Piece.opensQuote character = true ↔
      character = '{' ∨ character = '}' ∨ character = '#' ∨ character = '<' := by
  simp [Piece.opensQuote, or_assoc]

/-- An escaped character is read as one piece, whatever follows it. -/
theorem read_escapeCharacter
    (character : Char)
    (rest : List Char) :
    Piece.read (escapeCharacter character ++ rest) =
      escapedPiece character :: Piece.read rest := by
  rw [escapeCharacter, escapedPiece]
  by_cases quote : character = '\''
  · simp only [quote, if_true, List.cons_append, List.nil_append, Piece.read]
    rw [Piece.readFrom]
  · rw [if_neg quote, if_neg quote]
    by_cases opens : Piece.opensQuote character = true
    · rw [if_pos (opensQuote_iff.mp opens), if_pos opens, Piece.read, List.cons_append, List.cons_append,
        List.cons_append, List.nil_append, Piece.readFrom]
      · rw [opens, Piece.closesQuote]
        simp [Piece.readFrom, Piece.read]
      · exact fun same => absurd same quote
    · rw [if_neg (mt opensQuote_iff.mpr opens), if_neg opens]
      exact read_cons_plain quote rest

/-- Without apostrophes every character is a piece of its own, whatever follows. -/
theorem read_of_no_apostrophe
    {text : List Char}
    (plain : '\'' ∉ text)
    (more : List Char) :
    Piece.read (text ++ more) = text.map Piece.plain ++ Piece.read more := by
  induction text with
  | nil => rfl
  | cons character rest ih =>
      rw [List.mem_cons, not_or] at plain
      rcases plain with
        ⟨other, plain⟩
      rw [List.cons_append, read_cons_plain (Ne.symm other), ih plain]
      rfl

theorem read_eq_map_plain
    {text : List Char}
    (plain : '\'' ∉ text) :
    Piece.read text = text.map .plain := by
  have alone := read_of_no_apostrophe plain []
  rw [List.append_nil] at alone
  rw [alone, Piece.read, Piece.readFrom, List.append_nil]

theorem complete_of_no_apostrophe
    {text : List Char}
    (plain : '\'' ∉ text) :
    Complete text := by
  intro more
  rw [read_of_no_apostrophe plain, read_eq_map_plain plain]

/-- Escaped text is read character by character, whatever follows it. -/
theorem read_escaped
    (text more : List Char) :
    Piece.read (text.flatMap escapeCharacter ++ more) =
      text.map escapedPiece ++ Piece.read more := by
  induction text with
  | nil => rfl
  | cons character rest ih =>
      rw [List.flatMap_cons, List.append_assoc, read_escapeCharacter, ih]
      rfl

theorem read_escaped_alone
    (text : List Char) :
    Piece.read (text.flatMap escapeCharacter) = text.map escapedPiece := by
  have alone := read_escaped text []
  rw [List.append_nil] at alone
  rw [alone]
  simp [Piece.read, Piece.readFrom]

theorem complete_escaped
    (text : List Char) :
    Complete (text.flatMap escapeCharacter) := by
  intro more
  rw [read_escaped, read_escaped_alone]

/-- The markers of the second part count on from the sections of the first. -/
theorem textOf_append
    (index : Nat)
    (front back : List Piece) :
    Masked.textOf index (front ++ back) =
      Masked.textOf index front ++
        Masked.textOf (index + (front.filterMap Piece.quote?).length) back := by
  induction front generalizing index with
  | nil => rfl
  | cons piece rest ih =>
      cases piece with
      | plain character =>
          rw [List.cons_append, Masked.textOf, ih]
          rfl
      | apostrophe =>
          rw [List.cons_append, Masked.textOf, ih, Masked.textOf]
          · simp only [List.filterMap_cons, Piece.quote?, List.length_cons, List.append_assoc,
              Nat.add_assoc, Nat.add_comm 1]
          · simp
          · simp
      | quoted content =>
          rw [List.cons_append, Masked.textOf, ih, Masked.textOf]
          · simp only [List.filterMap_cons, Piece.quote?, List.length_cons, List.append_assoc,
              Nat.add_assoc, Nat.add_comm 1]
          · simp
          · simp

/-- Behind a complete text the markers count on from its sections. -/
theorem masked_append
    {front : List Char}
    (complete : Complete front)
    (index : Nat)
    (back : List Char) :
    masked index (front ++ back) =
      masked index front ++ masked (index + (quotesIn front).length) back := by
  rw [masked, complete, textOf_append]
  rfl

/-- The sections of a complete text stand before those of what follows it. -/
theorem quotesIn_append
    {front : List Char}
    (complete : Complete front)
    (back : List Char) :
    quotesIn (front ++ back) = quotesIn front ++ quotesIn back := by
  rw [quotesIn, complete, List.filterMap_append]
  rfl

theorem Masked.textOf_map_plain (index : Nat) (text : List Char) :
    textOf index (text.map .plain) = text := by
  induction text with
  | nil => rfl
  | cons character rest ih => rw [List.map_cons, textOf, ih]

theorem Piece.filterMap_quote?_map_plain (text : List Char) :
    (text.map plain).filterMap quote? = [] := by
  simp [List.filterMap_map, Function.comp_def, quote?]

theorem masked_of_no_apostrophe
    {text : List Char}
    (plain : '\'' ∉ text)
    (index : Nat) :
    masked index text = text := by
  rw [masked, read_eq_map_plain plain, Masked.textOf_map_plain]

theorem quotesIn_of_no_apostrophe
    {text : List Char}
    (plain : '\'' ∉ text) :
    quotesIn text = [] := by
  rw [quotesIn, read_eq_map_plain plain, Piece.filterMap_quote?_map_plain]

/-- Text without apostrophes is its own mask, whatever follows. -/
theorem masked_plain_append
    {front : List Char}
    (plain : '\'' ∉ front)
    (index : Nat)
    (back : List Char) :
    masked index (front ++ back) = front ++ masked index back := by
  rw [masked_append (complete_of_no_apostrophe plain), masked_of_no_apostrophe plain,
    quotesIn_of_no_apostrophe plain]
  rfl

namespace Quotes

variable {quotes : List (List Char)} {index : Nat} {first second : List Char}

theorem front
    (complete : Complete first)
    (held : Quotes quotes index (first ++ second)) :
    Quotes quotes index first := by
  rw [Quotes, quotesIn_append complete] at held
  exact (List.prefix_append _ _).trans held

/-- Behind a complete text its sections are used up, and those of the rest are still
there. -/
theorem back
    (complete : Complete first)
    (held : Quotes quotes index (first ++ second)) :
    Quotes quotes (index + (quotesIn first).length) second := by
  rw [Quotes, quotesIn_append complete] at held
  rcases held with
    ⟨more, same⟩
  refine ⟨more, ?_⟩
  rw [← List.drop_drop, ← same]
  simp

/-- Text without apostrophes uses no section. -/
theorem behind
    (plain : '\'' ∉ first)
    (held : Quotes quotes index (first ++ second)) :
    Quotes quotes index second := by
  have later := held.back (complete_of_no_apostrophe plain)
  rwa [quotesIn_of_no_apostrophe plain] at later

end Quotes

/-! ## Blocks -/

/-- A block is complete if its inside and what follows it are. -/
theorem Complete.block
    {inner rest : List Char}
    (inside : Complete inner)
    (behind : Complete rest) :
    Complete ('{' :: (inner ++ '}' :: rest)) := by
  have opening : Complete ['{'] := complete_of_no_apostrophe (by decide)
  have closing : Complete ['}'] := complete_of_no_apostrophe (by decide)
  exact opening.append (inside.append (closing.append behind))

/-- Masking leaves the braces of a block in place. -/
theorem masked_block
    {inner : List Char}
    (inside : Complete inner)
    (index : Nat)
    (rest : List Char) :
    masked index ('{' :: (inner ++ '}' :: rest)) =
      '{' :: (masked index inner ++ '}' :: masked (index + (quotesIn inner).length) rest) := by
  rw [← List.singleton_append, ← @List.singleton_append _ '}', masked_plain_append (by decide),
    masked_append inside, masked_plain_append (by decide)]
  rfl

/-- The sections of a block are those of its inside, and then those of what follows it. -/
theorem Quotes.block
    {quotes : List (List Char)}
    {index : Nat}
    {inner rest : List Char}
    (inside : Complete inner)
    (held : Quotes quotes index ('{' :: (inner ++ '}' :: rest))) :
    Quotes quotes index inner ∧ Quotes quotes (index + (quotesIn inner).length) rest := by
  rw [← List.singleton_append, ← @List.singleton_append _ '}'] at held
  have opened := held.behind (by decide)
  exact ⟨opened.front inside, (opened.back inside).behind (by decide)⟩

/-! ## Escaped text -/

/-- The mask of escaped text is that of one piece for each character. -/
theorem masked_escaped
    (index : Nat)
    (text : List Char) :
    masked index (text.flatMap escapeCharacter) =
      Masked.textOf index (text.map escapedPiece) := by
  rw [masked, read_escaped_alone]

theorem quotesIn_escaped
    (text : List Char) :
    quotesIn (text.flatMap escapeCharacter) =
      (text.map escapedPiece).filterMap Piece.quote? := by
  rw [quotesIn, read_escaped_alone]

/-- A character is quoted with a marker, or stands for itself. -/
theorem escapedPiece_cases
    (character : Char) :
    (∀ index rest,
        Masked.textOf index (escapedPiece character :: rest) =
          marker index ++ Masked.textOf (index + 1) rest) ∧
        (escapedPiece character).quote? = some [character] ∨
      escapedPiece character = .plain character ∧ Piece.opensQuote character = false := by
  rw [escapedPiece]
  split
  case isTrue quote =>
    exact Or.inl ⟨fun _ _ => rfl, by rw [quote]; rfl⟩
  case isFalse =>
    split
    case isTrue => exact Or.inl ⟨fun _ _ => rfl, rfl⟩
    case isFalse plain => exact Or.inr ⟨rfl, by simpa using plain⟩

/-- The characters of the notation do not occur in markers. -/
theorem unmarked_of_opensQuote
    {character : Char}
    (opens : Piece.opensQuote character = true) :
    Unmarked character := by
  rcases opensQuote_iff.mp opens with rfl | rfl | rfl | rfl <;> constructor <;> decide

theorem Unmarked.not_mem_marker
    {character : Char}
    (unmarked : Unmarked character)
    (index : Nat) :
    character ∉ marker index := by
  intro member
  simp only [marker, List.mem_append, List.mem_cons, List.not_mem_nil, or_false] at member
  rcases member with ((score | middle | score) | digit) | score
  · exact unmarked.noScore score
  · exact unmarked.noMarker middle
  · exact unmarked.noScore score
  · have decimal := Text.isDecimalDigit_of_isDigit (Text.isDigit_of_mem_writeNat digit)
    rw [unmarked.noDigit] at decimal
    cases decimal
  · exact unmarked.noScore score

theorem opensQuote_of_mem_marker
    {index : Nat}
    {character : Char}
    (member : character ∈ marker index) :
    Piece.opensQuote character = false := by
  rw [Bool.eq_false_iff]
  intro opens
  exact (unmarked_of_opensQuote opens).not_mem_marker index member

/-- No notation is left in escaped text when it is masked. -/
theorem opensQuote_of_mem_masked
    {index : Nat}
    {text : List Char}
    {character : Char}
    (member : character ∈ masked index (text.flatMap escapeCharacter)) :
    Piece.opensQuote character = false := by
  rw [masked_escaped] at member
  induction text generalizing index with
  | nil => cases member
  | cons first rest ih =>
      rw [List.map_cons] at member
      rcases escapedPiece_cases first with ⟨quoted, _⟩ | ⟨plain, other⟩
      · rw [quoted, List.mem_append] at member
        rcases member with inMarker | later
        · exact opensQuote_of_mem_marker inMarker
        · exact ih later
      · rw [plain, Masked.textOf, List.mem_cons] at member
        rcases member with rfl | later
        · exact other
        · exact ih later

/-- A marker in front of a text is replaced by the section that it stands for. -/
theorem unmask_marker
    {quotes : List (List Char)}
    {index : Nat}
    {quote : List Char}
    (found : quotes[index]? = some quote)
    (rest : List Char) :
    unmask quotes (marker index ++ rest) = quote ++ unmask quotes rest := by
  have whole : marker index ++ rest =
      '_' :: markerCharacter :: '_' :: (Text.writeNat index ++ '_' :: rest) := by
    simp [marker]
  have marked : markerDigits? (marker index ++ rest) = some (Text.writeNat index) := by
    rw [markerDigits?_eq_some_iff]
    refine ⟨Text.writeNat_ne_nil index, ?_, rest, whole⟩
    intro digit member
    exact Text.isDecimalDigit_of_isDigit (Text.isDigit_of_mem_writeNat member)
  have meaning : markerMeaning quotes (Text.writeNat index) = quote := by
    rw [markerMeaning, Text.readNat?_writeNat, Option.bind_some, found]
  rw [unmask_of_marker marked, meaning, whole, drop_marker]

/-- A section that is open has a first character already. -/
private theorem filled_of_mem_readFrom
    {opened : Option (List Char)}
    {text : List Char}
    (begun : ∀ content, opened = some content → content ≠ [])
    {quote : List Char}
    (member : quote ∈ (Piece.readFrom opened text).filterMap Piece.quote?) :
    quote ≠ [] := by
  fun_induction Piece.readFrom opened text with
  | case1 => cases member
  | case2 rest ih =>
      rcases List.mem_cons.mp member with rfl | later
      · simp
      · exact ih (by simp) later
  | case3 character rest noDouble opens ih => exact ih (by simp) member
  | case4 character rest noDouble closed ih => exact ih (by simp) member
  | case5 character rest noDouble noOpening ih => exact ih (by simp) member
  | case6 content => cases member
  | case7 content rest ih =>
      rcases List.mem_cons.mp member with rfl | later
      · simpa using begun content rfl
      · exact ih (by simp) later
  | case8 content character rest other ih => exact ih (by simp) member

/-- No quoted section is empty. -/
theorem filled_of_mem_quotes
    {pattern quote : List Char}
    (member : quote ∈ (Masked.ofPattern pattern).quotes) :
    quote ≠ [] :=
  filled_of_mem_readFrom (by simp) member

/-- If no section is empty, unmasking leaves some text of every text. -/
theorem unmask_ne_nil
    {quotes : List (List Char)}
    (filled : ∀ quote ∈ quotes, quote ≠ [])
    {text : List Char}
    (someText : text ≠ []) :
    unmask quotes text ≠ [] := by
  cases text with
  | nil => exact absurd rfl someText
  | cons character rest =>
      cases marked : markerDigits? (character :: rest) with
      | none =>
          rw [unmask_cons_of_none marked]
          simp
      | some digits =>
          rw [unmask_of_marker marked, markerMeaning]
          split
          case h_1 quote found =>
            rcases Option.bind_eq_some_iff.mp found with
              ⟨index, _, inside⟩
            simp [filled quote (List.mem_of_getElem? inside)]
          case h_2 => simp

end IcuMessage
