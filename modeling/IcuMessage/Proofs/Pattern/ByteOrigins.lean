import IcuMessage.Proofs.Pattern.QuotingRule

/-!
# Where the bytes of a masked text come from

Masking copies the characters that stand for themselves and puts a marker in place of each
quoted section.  So a byte of the masked text is the copy of a byte of the pattern, or the
first byte of a marker, or some other byte of a marker (`Piece.origin_cases`).

`Masked.unmaskedOffset` takes every copy back to the byte that it is a copy of, and the
first byte of every marker to the apostrophe that opens the section, whatever stands
around them: the main statement is `unmaskedOffset_inverts_masking`.
-/

namespace IcuMessage

namespace Text

/-- The bytes of the UTF-8 encoding of a text. -/
def bytes (text : List Char) : List UInt8 :=
  text.flatMap String.utf8EncodeChar

@[simp]
theorem bytes_cons (character : Char) (rest : List Char) :
    bytes (character :: rest) = String.utf8EncodeChar character ++ bytes rest :=
  List.flatMap_cons

@[simp]
theorem bytes_append (front back : List Char) :
    bytes (front ++ back) = bytes front ++ bytes back :=
  List.flatMap_append

@[simp]
theorem length_bytes (text : List Char) : (bytes text).length = byteWidth text := by
  induction text with
  | nil => rfl
  | cons character rest ih =>
      rw [bytes_cons, List.length_append, String.length_utf8EncodeChar, ih, byteWidth_cons]

/-- Behind the text in front of it, a text has its own bytes. -/
theorem getElem?_bytes_append (front back : List Char) (index : Nat) :
    (bytes (front ++ back))[byteWidth front + index]? = (bytes back)[index]? := by
  rw [bytes_append, ← length_bytes, List.getElem?_append_right (Nat.le_add_right _ _),
    Nat.add_sub_cancel_left]

/-- The bytes of a text start with those of its first character. -/
theorem getElem?_bytes_cons
    {character : Char}
    {index : Nat}
    (inside : index < character.utf8Size)
    (rest : List Char) :
    (bytes (character :: rest))[index]? = (String.utf8EncodeChar character)[index]? := by
  rw [bytes_cons, List.getElem?_append_left]
  rwa [String.length_utf8EncodeChar]

end Text

namespace Piece

variable {pieces : List Piece} {origin offset : Nat}

/-- A byte of the masked text is the copy of a byte of the pattern: they are the same byte
of a character that stands for itself. -/
def Copies (pieces : List Piece) (origin offset : Nat) : Prop :=
  ∃ front character back byte,
    pieces = front ++ .plain character :: back ∧ byte < character.utf8Size ∧
      origin = Text.byteWidth (sources front) + byte ∧
        offset = Text.byteWidth (Masked.textOf 0 front) + byte

/-- At a byte of the masked text starts the marker of a section, which starts at a byte of
the pattern. -/
def StartsMarker (pieces : List Piece) (origin offset : Nat) : Prop :=
  ∃ front piece back,
    pieces = front ++ piece :: back ∧ piece.quote?.isSome ∧
      origin = Text.byteWidth (sources front) ∧
        offset = Text.byteWidth (Masked.textOf 0 front)

/-- A byte of the masked text belongs to a marker and is not its first byte. -/
def InsideMarker (pieces : List Piece) (offset : Nat) : Prop :=
  ∃ front piece back,
    pieces = front ++ piece :: back ∧ piece.quote?.isSome ∧
      Text.byteWidth (Masked.textOf 0 front) < offset ∧
        offset < Text.byteWidth (Masked.textOf 0 (front ++ [piece]))

/-- The pieces before a byte of the masked text, and the piece that it belongs to. -/
theorem exists_split_of_lt
    {index : Nat}
    (inside : offset < Text.byteWidth (Masked.textOf index pieces)) :
    ∃ front piece back,
      pieces = front ++ piece :: back ∧ Text.byteWidth (Masked.textOf index front) ≤ offset ∧
        offset < Text.byteWidth (Masked.textOf index (front ++ [piece])) := by
  induction pieces generalizing index offset with
  | nil => exact absurd inside (Nat.not_lt_zero offset)
  | cons first rest ih =>
      by_cases own : offset < Text.byteWidth (Masked.textOf index [first])
      · exact ⟨[], first, rest, rfl, Nat.zero_le offset, own⟩
      · have whole (more : List Piece) :
            Text.byteWidth (Masked.textOf index (first :: more)) =
              Text.byteWidth (Masked.textOf index [first]) +
                Text.byteWidth (Masked.textOf (index + ([first].filterMap quote?).length) more) := by
          rw [← List.singleton_append, textOf_append, Text.byteWidth_append]
        rw [Nat.not_lt] at own
        rw [whole] at inside
        rcases ih (Nat.sub_lt_left_of_lt_add own inside) with
          ⟨front, piece, back, rfl, begun, ends⟩
        refine ⟨first :: front, piece, back, rfl, ?_, ?_⟩
        · rw [whole]
          omega
        · rw [List.cons_append, whole]
          omega

/-- Every byte of the masked text is a copy, starts a marker or stands inside of one. -/
theorem origin_cases (inside : offset < Text.byteWidth (Masked.textOf 0 pieces)) :
    (∃ origin, Copies pieces origin offset) ∨ (∃ origin, StartsMarker pieces origin offset) ∨
      InsideMarker pieces offset := by
  rcases exists_split_of_lt inside with
    ⟨front, piece, back, split, begun, ends⟩
  rcases piece.plain_or_quoted with ⟨character, rfl⟩ | quoted
  · left
    rcases Nat.exists_eq_add_of_le begun with
      ⟨byte, rfl⟩
    rw [textOf_append, Text.byteWidth_append, Masked.textOf, Masked.textOf, Text.byteWidth_cons,
      Text.byteWidth_nil] at ends
    exact ⟨_, front, character, back, byte, split, by omega, rfl, rfl⟩
  · right
    rcases Nat.eq_or_lt_of_le begun with first | later
    · exact Or.inl ⟨_, front, piece, back, split, quoted, rfl, first.symm⟩
    · exact Or.inr ⟨front, piece, back, split, quoted, later, ends⟩

/-- A copy has the value of the byte that it is a copy of. -/
theorem Copies.same_byte (copied : Copies pieces origin offset) :
    ∃ byte,
      (Text.bytes (sources pieces))[origin]? = some byte ∧
        (Text.bytes (Masked.textOf 0 pieces))[offset]? = some byte := by
  rcases copied with
    ⟨front, character, back, byte, rfl, inside, rfl, rfl⟩
  have present : byte < (String.utf8EncodeChar character).length := by
    rwa [String.length_utf8EncodeChar]
  refine ⟨(String.utf8EncodeChar character)[byte], ?_, ?_⟩
  · rw [sources_append, sources_cons, source, Text.getElem?_bytes_append, List.singleton_append,
      Text.getElem?_bytes_cons inside, List.getElem?_eq_getElem present]
  · rw [textOf_append, Masked.textOf, Text.getElem?_bytes_append, Text.getElem?_bytes_cons inside,
      List.getElem?_eq_getElem present]

/-- Where a marker starts, the pattern has an apostrophe. -/
theorem StartsMarker.apostrophe (starts : StartsMarker pieces origin offset) :
    (Text.bytes (sources pieces))[origin]? = some '\''.toUInt8 := by
  rcases starts with
    ⟨front, piece, back, rfl, quoted, rfl, rfl⟩
  have opened : ∃ rest, piece.source ++ sources back = '\'' :: rest := by
    cases piece with
    | plain character => cases quoted
    | apostrophe => exact ⟨_, rfl⟩
    | quoted content => exact ⟨_, rfl⟩
  rcases opened with
    ⟨rest, opened⟩
  rw [← Nat.add_zero (Text.byteWidth (sources front)), sources_append, sources_cons, opened,
    Text.getElem?_bytes_append, Text.getElem?_bytes_cons (by decide)]
  rfl

/-- Where a marker starts, the masked text has one. -/
theorem StartsMarker.marker_prefix (starts : StartsMarker pieces origin offset) :
    ∃ index,
      Text.bytes (marker index) <+: (Text.bytes (Masked.textOf 0 pieces)).drop offset := by
  rcases starts with
    ⟨front, piece, back, rfl, quoted, rfl, rfl⟩
  refine ⟨(front.filterMap quote?).length, ?_⟩
  rw [textOf_append, Nat.zero_add, Masked.textOf_quoted quoted, Text.bytes_append,
    Text.bytes_append, ← Text.length_bytes, List.drop_left]
  exact List.prefix_append _ _

end Piece

namespace Masked

/-- A character that stands for itself has no marker in it. -/
theorem noMarkerEndsWithin_plain
    {character : Char}
    {byte : Nat}
    (inside : byte < character.utf8Size)
    (back : List Piece) :
    NoMarkerEndsWithin byte (.plain character :: back) := by
  intro index position removed shift member
  have behind : position + character.utf8Size < shift.finish := lt_finish_of_mem_shiftsOf member
  omega

variable {pattern : List Char} {origin offset : Nat}

/-- A byte that is copied comes from where it was. -/
theorem unmaskedOffset_of_copies
    (copied : Piece.Copies (Piece.read pattern) origin offset) :
    (ofPattern pattern).unmaskedOffset offset = origin := by
  rcases copied with
    ⟨front, character, back, byte, split, inside, rfl, rfl⟩
  exact unmaskedOffset_within split (noMarkerEndsWithin_plain inside back)

/-- A marker comes from the first apostrophe of its section. -/
theorem unmaskedOffset_of_startsMarker
    (starts : Piece.StartsMarker (Piece.read pattern) origin offset) :
    (ofPattern pattern).unmaskedOffset offset = origin := by
  rcases starts with
    ⟨front, piece, back, split, _, rfl, rfl⟩
  exact unmaskedOffset_textOf split

end Masked

/-- Offsets in a masked text are taken back exactly.  However the quoting rule cuts the
pattern, a copy of a byte goes to that byte, the first byte of a marker to the apostrophe
that opens its section, and the end to the end; and there are no bytes besides but the
other ones of the markers. -/
theorem unmaskedOffset_inverts_masking
    {pattern : String}
    {pieces : List Piece}
    (cut : Piece.Scanned pattern.toList pieces) :
    let masked := Masked.ofPattern pattern.toList
    (∀ origin offset, Piece.Copies pieces origin offset →
      masked.unmaskedOffset offset = origin ∧
        ∃ byte,
          (Text.bytes pattern.toList)[origin]? = some byte ∧
            (Text.bytes masked.text)[offset]? = some byte) ∧
    (∀ origin offset, Piece.StartsMarker pieces origin offset →
      masked.unmaskedOffset offset = origin ∧
        (Text.bytes pattern.toList)[origin]? = some '\''.toUInt8 ∧
          ∃ index, Text.bytes (marker index) <+: (Text.bytes masked.text).drop offset) ∧
    masked.unmaskedOffset (Text.byteWidth masked.text) = Text.byteWidth pattern.toList ∧
    ∀ offset < Text.byteWidth masked.text,
      (∃ origin, Piece.Copies pieces origin offset) ∨
        (∃ origin, Piece.StartsMarker pieces origin offset) ∨
          Piece.InsideMarker pieces offset := by
  obtain rfl := Piece.scanned_iff.mp cut
  have whole := Piece.sources_read pattern.toList
  refine ⟨fun origin offset copied => ?_, fun origin offset starts => ?_, ?_, fun offset => ?_⟩
  · refine ⟨Masked.unmaskedOffset_of_copies copied, ?_⟩
    have same := copied.same_byte
    rwa [whole] at same
  · refine ⟨Masked.unmaskedOffset_of_startsMarker starts, ?_, starts.marker_prefix⟩
    have opened := starts.apostrophe
    rwa [whole] at opened
  · have last := Masked.unmaskedOffset_textOf (List.append_nil (Piece.read pattern.toList)).symm
    rwa [whole] at last
  · exact Piece.origin_cases

/-- Two sections that touch each other, between letters of two bytes. -/
def touchingSections : String :=
  "\u00E9'''\x7bx\x7d'\u00DF"

/-- In `touchingSections` a byte of the last letter, the start of the second marker and
the end of the text come from their places in the pattern. -/
theorem unmaskedOffset_inverts_masking_touchingSections :
    let pieces : List Piece :=
      [.plain '\u00E9', .apostrophe, .quoted ['\x7b', 'x', '\x7d'], .plain '\u00DF']
    let masked := Masked.ofPattern touchingSections.toList
    Piece.Scanned touchingSections.toList pieces ∧
      (Piece.Copies pieces 10 17 ∧ masked.unmaskedOffset 17 = 10) ∧
      (Piece.StartsMarker pieces 4 9 ∧ masked.unmaskedOffset 9 = 4) ∧
      masked.unmaskedOffset 18 = 11 := by
  intro pieces masked
  have cut : Piece.Scanned touchingSections.toList pieces := by
    rw [Piece.scanned_iff]
    decide +kernel
  have copied : Piece.Copies pieces 10 17 :=
    ⟨[.plain '\u00E9', .apostrophe, .quoted ['\x7b', 'x', '\x7d']], '\u00DF', [], 1, rfl,
      by decide, by decide, by decide⟩
  have starts : Piece.StartsMarker pieces 4 9 :=
    ⟨[.plain '\u00E9', .apostrophe], .quoted ['\x7b', 'x', '\x7d'], [.plain '\u00DF'], rfl, rfl,
      by decide, by decide⟩
  obtain ⟨copies, markers, ended, -⟩ := unmaskedOffset_inverts_masking cut
  exact ⟨cut, ⟨copied, (copies 10 17 copied).1⟩, ⟨starts, (markers 4 9 starts).1⟩, ended⟩

end IcuMessage
