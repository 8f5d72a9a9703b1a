import IcuMessage.Proofs.Pattern.BraceErrors
import IcuMessage.Proofs.Pattern.ErrorPlaces
import IcuMessage.Proofs.Pattern.Relocation

/-!
# A message inside a select

A pattern whose unquoted braces balance may be put into the branch of a select.  It is
read there as it is read alone, and where it is wrong, it is wrong in the same way and
at the same place of the pattern (`parse_insideSelect`).

The quoted sections of the pattern stay what they are, since there are no apostrophes
around it (`Piece.Scanned.append_plain`).  In the masked text the pattern starts at
another byte, and the braces around it become the nests of the select.
-/

namespace IcuMessage

/-- The notation in front of a message in the only branch of a select. -/
def selectOpening : String := "\x7bg, select, other \x7b"

/-- The notation behind the message. -/
def selectClosing : String := "\x7d\x7d"

/-- A pattern as the only branch of a select. -/
def insideSelect (pattern : String) : String :=
  selectOpening ++ pattern ++ selectClosing

/-! ## Quoted sections -/

namespace Piece

theorem exists_front_of_isSection
    {piece : Piece}
    (quotes : piece.IsSection) :
    ∃ front, piece.source = front ++ ['\''] := by
  cases quotes with
  | apostrophe => exact ⟨['\''], rfl⟩
  | @quoted first run => exact ⟨'\'' :: first :: run, rfl⟩

/-- Text without apostrophes closes no section that stands before it. -/
theorem Scanned.append_plain
    {text more : List Char}
    {pieces : List Piece}
    (scanned : Scanned text pieces)
    (plain : '\'' ∉ more) :
    Scanned (text ++ more) (pieces ++ more.map .plain) := by
  induction scanned with
  | nil =>
      rw [List.nil_append, List.nil_append, scanned_iff]
      exact read_eq_map_plain plain
  | quoted quotes later ih =>
      rw [List.append_assoc]
      exact .quoted quotes ih
  | @plain character rest pieces noSection later ih =>
      refine .plain ?_ ih
      intro piece after quotes same
      rcases exists_front_of_isSection quotes with
        ⟨front, shape⟩
      rw [shape, List.append_assoc, List.singleton_append] at same
      -- The apostrophe that would close the section is not in the text that is added.
      have joined : (character :: rest) ++ more = front ++ '\'' :: after := same
      rcases split_append joined with ⟨between, inside, _⟩ | ⟨between, _, inMore⟩
      · refine noSection piece between quotes ?_
        rw [shape, inside, List.append_assoc, List.singleton_append]
      · exact plain (inMore ▸ List.mem_append_right _ List.mem_cons_self)

/-- What follows a pattern without an apostrophe belongs to no section of it. -/
theorem read_append_plain
    {more : List Char}
    (plain : '\'' ∉ more)
    (text : List Char) :
    read (text ++ more) = read text ++ more.map .plain :=
  scanned_iff.mp ((scanned_read text).append_plain plain)

end Piece

/-- The sections of a pattern stay the same inside of a select. -/
theorem read_insideSelect (pattern : String) :
    Piece.read (insideSelect pattern).toList =
      selectOpening.toList.map .plain ++
        (Piece.read pattern.toList ++ selectClosing.toList.map .plain) := by
  have front : '\'' ∉ selectOpening.toList := by decide
  have back : '\'' ∉ selectClosing.toList := by decide
  rw [insideSelect, String.toList_append, String.toList_append, List.append_assoc,
    read_of_no_apostrophe front, Piece.read_append_plain back]

/-- The mask of a pattern stands as it is inside of the select. -/
theorem text_insideSelect (pattern : String) :
    (Masked.ofPattern (insideSelect pattern).toList).text =
      selectOpening.toList ++
        ((Masked.ofPattern pattern.toList).text ++ selectClosing.toList) := by
  simp only [Masked.ofPattern, read_insideSelect, textOf_append, Masked.textOf_map_plain,
    Piece.filterMap_quote?_map_plain, List.length_nil, Nat.add_zero]

theorem quotes_insideSelect (pattern : String) :
    (Masked.ofPattern (insideSelect pattern).toList).quotes =
      (Masked.ofPattern pattern.toList).quotes := by
  simp only [Masked.ofPattern, read_insideSelect, List.filterMap_append,
    Piece.filterMap_quote?_map_plain, List.nil_append, List.append_nil]

/-- A place between pieces of the pattern is behind the opening by as many bytes, in the
masked text as in the pattern. -/
theorem unmaskedOffset_insideSelect
    {pattern : String}
    {front back : List Piece}
    (pieces : Piece.read pattern.toList = front ++ back) :
    (Masked.ofPattern (insideSelect pattern).toList).unmaskedOffset
        (Text.byteWidth (Masked.textOf 0 front) + selectOpening.utf8ByteSize) =
      Text.byteWidth (Piece.sources front) + selectOpening.utf8ByteSize := by
  have whole : Piece.read (insideSelect pattern).toList =
      (selectOpening.toList.map .plain ++ front) ++
        (back ++ selectClosing.toList.map .plain) := by
    rw [read_insideSelect, pieces]
    simp
  have place := Masked.unmaskedOffset_textOf whole
  have width : selectOpening.utf8ByteSize = Text.byteWidth selectOpening.toList := by rfl
  rw [textOf_append, Masked.textOf_map_plain, Piece.filterMap_quote?_map_plain,
    Text.byteWidth_append, Piece.sources_append, Piece.sources_map_plain,
    Text.byteWidth_append] at place
  rw [width, Nat.add_comm, Nat.add_comm (Text.byteWidth (Piece.sources front))]
  exact place

/-! ## Nests -/

/-- The text between the two braces of the opening. -/
def selectHeader : List Char := "g, select, other ".toList

/-- The nests of a text in the branch of the select. -/
theorem Nest.read_insideSelect
    {text : List Char}
    {nests : List Nest}
    (read : Nest.read text selectOpening.utf8ByteSize = .ok nests) :
    Nest.read (selectOpening.toList ++ (text ++ selectClosing.toList)) 0 =
      .ok [.block [.text selectHeader 1, .block nests selectOpening.utf8ByteSize] 1] := by
  have opening : selectOpening.toList = '{' :: (selectHeader ++ ['{']) := by rfl
  have closing : selectClosing.toList = ['}', '}'] := by rfl
  have shape : selectOpening.toList ++ (text ++ selectClosing.toList) =
      '{' :: ((selectHeader ++ '{' :: (text ++ ['}'])) ++ ['}']) := by
    simp [opening, closing]
  have width : selectOpening.utf8ByteSize = 0 + 1 + Text.byteWidth selectHeader + 1 := by rfl
  rw [width] at read ⊢
  rw [shape, Nest.read_eq_ok_iff]
  refine .block (.text (by decide) (by decide) id ?_) .nil
  exact .block (Nest.read_eq_ok_iff.mp read) .nil

theorem read?_selectHeader :
    Header.read? selectHeader =
      some (.openEnded ['g'] "select".toList 3 " other ".toList) := by
  decide

theorem ParseContext.optionKey?_other (context : ParseContext) (start : Nat) :
    context.optionKey? " other ".toList start = .ok (some (otherKey, start + 1)) := by
  have other : Text.trim " other ".toList = otherKey.toList := by decide
  have unmarked : markerCharacter ∉ otherKey.toList := by decide
  rw [optionKey?, other, unmasked, unmask_eq_self _ unmarked, String.ofList_toList]
  rfl

/-- The only option of the select holds the message of the pattern. -/
theorem argumentOptions_other
    (context : ParseContext)
    (start : Nat)
    (nests : List Nest)
    (offset : Nat) :
    argumentOptions context false [] " other ".toList start [.block nests offset] =
      (messageOfNests context false nests).map fun message =>
        [⟨otherKey, message, start + 1⟩] := by
  have ended : context.optionKey? [] 0 = .ok none := rfl
  rw [argumentOptions, context.optionKey?_other, bodyTokens, messageOfNests]
  simp only [List.contains_nil, Bool.false_eq_true, if_false, argumentOptions, ended, ok_bind]
  cases messageTokens context false nests with
  | error error => rfl
  | ok tokens =>
      rw [ok_bind, ok_bind]
      cases assemble tokens <;> rfl

/-- The nests of the select are read as the select with the message of its branch. -/
theorem messageOfNests_insideSelect
    (context : ParseContext)
    (nests : List Nest)
    (offset : Nat) :
    messageOfNests context false [.block [.text selectHeader 1, .block nests offset] 1] =
      (messageOfNests context false nests).map fun message =>
        [.select "g" [(otherKey, message)]] := by
  have noPlural : PluralRule.ofKind? "select".toList = none := by decide
  rw [messageOfNests, messageTokens, nestTokens, messageTokens, argument]
  simp only [read?_selectHeader, noPlural, if_true, argumentOptions_other]
  cases messageOfNests context false nests with
  | error error => rfl
  | ok message => rfl

/-- A balanced text is read as it is alone, behind the opening of the select. -/
theorem messageOfText_insideSelect
    {text : List Char}
    (paired : Balanced (braces text))
    (context : ParseContext) :
    messageOfText context false (selectOpening.toList ++ (text ++ selectClosing.toList)) 0 =
      ((messageOfText context false text 0).mapError
          (PatternError.relocate selectOpening.utf8ByteSize)).map fun message =>
        [.select "g" [(otherKey, message)]] := by
  rcases Nest.exists_read_of_balanced paired selectOpening.utf8ByteSize with
    ⟨nests, read⟩
  have alone := messageOfText_relocated selectOpening.utf8ByteSize context false text 0
  rw [Nat.zero_add] at alone
  rw [← alone, messageOfText, messageOfText, Nest.read_insideSelect read, read, ok_bind, ok_bind,
    messageOfNests_insideSelect]

/-! ## Parsing -/

/-- Inside of the select a pattern with balanced braces parses as it does alone, with its
errors moved by the width of the opening. -/
theorem parse_insideSelect
    {pattern : String}
    (balance : BracesBalance pattern)
    (ignoreTags : Bool) :
    parse ignoreTags (insideSelect pattern) =
      ((parse ignoreTags pattern).mapError
          (PatternError.relocate selectOpening.utf8ByteSize)).map fun message =>
        [.select "g" [(otherKey, message)]] := by
  have paired : Balanced (braces (Masked.ofPattern pattern.toList).text) :=
    (braces_textOf 0 _).symm ▸ bracesBalance_iff.mp balance
  have inPlace : FailsInPlace (Piece.read pattern.toList) (fun _ => True)
      (messageOfText ⟨(Masked.ofPattern pattern.toList).quotes, ignoreTags⟩ false
        (Masked.ofPattern pattern.toList).text 0) :=
    failsInPlace_messageOfText _ false
  rw [parse, parse]
  simp only [quotes_insideSelect, text_insideSelect, messageOfText_insideSelect paired]
  generalize messageOfText _ false (Masked.ofPattern pattern.toList).text 0 = outcome
    at inPlace ⊢
  cases outcome with
  | ok message => rfl
  | error error =>
      -- The error is at a place between pieces, which both ways back to a pattern respect.
      rcases inPlace with
        ⟨front, back, split, width⟩
      have here := Masked.unmaskedOffset_textOf split
      have inside := unmaskedOffset_insideSelect split
      rw [width] at here inside
      simp only [Except.mapError, Except.map, PatternError.relocate, here, inside]

/-- A message may be put into a select.  If the unquoted braces of a pattern balance, the
pattern reads as a message in the branch of a select just if it reads as the message
alone; and where it fails, it fails inside of the select for the same reason and at the
same place, behind the opening of the select. -/
theorem select_does_not_change_parse
    {pattern : String}
    (balance : BracesBalance pattern)
    (ignoreTags : Bool) :
    (∀ message,
      parse ignoreTags (insideSelect pattern) = .ok [.select "g" [(otherKey, message)]] ↔
        parse ignoreTags pattern = .ok message) ∧
    ∀ fault offset,
      parse ignoreTags pattern = .error ⟨fault, offset⟩ →
        parse ignoreTags (insideSelect pattern) =
          .error ⟨fault, offset + selectOpening.utf8ByteSize⟩ := by
  rw [parse_insideSelect balance]
  constructor
  · intro message
    simp only [map_eq_ok_iff, mapError_eq_ok_iff]
    constructor
    · rintro ⟨alone, parsed, same⟩
      cases same
      exact parsed
    · intro parsed
      exact ⟨message, parsed, rfl⟩
  · intro fault offset failed
    rw [failed]
    rfl

/-- A quoted brace, tags that do not match, and an apostrophe at the end, which opens no
section with the brace that follows it inside of the select. -/
def loneApostrophePattern : String := "'\x7b' <b>\x7bx\x7d</i> '"

/-- Without tags `loneApostrophePattern` is the branch of the select, and with tags its
fault is blamed further on. -/
theorem select_does_not_change_parse_loneApostrophe :
    BracesBalance loneApostrophePattern ∧
      parse true (insideSelect loneApostrophePattern) =
        .ok [.select "g"
          [(otherKey, [.literal "\x7b <b>", .argument "x", .literal "</i> '"])]] ∧
      parse false loneApostrophePattern = .error ⟨.mismatchedClosingTag "i" "b", 10⟩ ∧
      parse false (insideSelect loneApostrophePattern) =
        .error ⟨.mismatchedClosingTag "i" "b", 29⟩ := by
  have balance : BracesBalance loneApostrophePattern := by
    have braces : braces (Piece.unquoted (Piece.read loneApostrophePattern.toList)) =
        ['{', '}'] := by
      decide +kernel
    rw [bracesBalance_iff, braces]
    exact .block .nil .nil
  have parsed : parse true loneApostrophePattern =
      .ok [.literal "\x7b <b>", .argument "x", .literal "</i> '"] := by
    decide +kernel
  have failed : parse false loneApostrophePattern =
      .error ⟨.mismatchedClosingTag "i" "b", 10⟩ := by
    decide +kernel
  exact ⟨balance, ((select_does_not_change_parse balance true).1 _).mpr parsed, failed,
    (select_does_not_change_parse balance false).2 _ _ failed⟩

end IcuMessage
