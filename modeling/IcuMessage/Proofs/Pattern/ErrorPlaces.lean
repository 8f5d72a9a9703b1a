import IcuMessage.Proofs.Pattern.Braces
import IcuMessage.Proofs.Pattern.Faults

/-!
# The places of parse errors

The induction over the nests of a pattern that takes what `FailsInPlace` says
of the parts of the parser to the whole of it, and the main statement
(`parse_error_in_place`): where a pattern is said to be wrong, the pattern has
a character boundary outside its quoted sections, and the brace or the tag that
is complained about.
-/

namespace IcuMessage

variable {pieces : List Piece}

/-- Nests are those of a text that the masked text shows. -/
def Nest.Shown (pieces : List Piece) (nests : List Nest) : Prop :=
  nests = [] ∨ ∃ base text, Nested base text nests ∧ Piece.Shows pieces base text

/-- What is nested behind a stretch starts with a brace, so its place is shown. -/
theorem Nest.shown_of_apart
    {base : Nat}
    {before text : List Char}
    {nests : List Nest}
    (apart : ¬ Nest.StartWithText nests)
    (nested : Nested (base + Text.byteWidth before) text nests)
    (shows : Piece.Shows pieces base (before ++ text)) :
    Nest.Shown pieces nests := by
  cases nested with
  | nil => exact Or.inl rfl
  | text => exact absurd trivial apart
  | block inside behind =>
      exact Or.inr ⟨_, _, .block inside behind, (shows.beside (unmarked_of_opensQuote rfl)).1⟩

/-- Behind both braces of a block there are places. -/
theorem Piece.Shows.block
    {base : Nat}
    {inner rest : List Char}
    (shows : Piece.Shows pieces base ('{' :: (inner ++ '}' :: rest))) :
    Piece.Shows pieces (base + 1) inner ∧
      Piece.Shows pieces (base + 1 + Text.byteWidth inner + 1) rest := by
  have opened : Piece.Shows pieces (base + 1) (inner ++ '}' :: rest) := by
    rw [← List.nil_append ('{' :: _)] at shows
    exact (shows.beside (unmarked_of_opensQuote rfl)).2
  exact ⟨opened.append_left, (opened.beside (unmarked_of_opensQuote rfl)).2⟩

/-- The kind of an argument starts at a place. -/
theorem Piece.Shows.spells_kind
    {base wordOffset : Nat}
    {content name word : List Char}
    (header : Header.read? content = some (.kind name word wordOffset))
    (shows : Piece.Shows pieces base content) :
    Piece.Spells pieces (base + wordOffset) [] := by
  cases Header.readOff_of_read? header with
  | kind named worded separates shape =>
      rw [shape] at shows
      exact (shows.behind separates).spells_nil

/-- The kind of an argument and the text behind the comma after it start at places. -/
theorem Piece.Shows.openEnded
    {base wordOffset : Nat}
    {content name word tail : List Char}
    (header : Header.read? content = some (.openEnded name word wordOffset tail))
    (shows : Piece.Shows pieces base content) :
    Piece.Spells pieces (base + wordOffset) [] ∧
      Piece.Shows pieces (base + (Text.byteWidth content - Text.byteWidth tail)) tail := by
  cases Header.readOff_of_read? header with
  | @openEnded _ _ front between _ separator named worded separates shape =>
      rw [shape] at shows
      have kindShows := shows.behind separates
      have width : Text.byteWidth content - Text.byteWidth tail =
          Text.byteWidth (front ++ [separator]) + Text.byteWidth (word ++ between ++ [',']) := by
        rw [shape]
        simp only [Text.byteWidth_append, Text.byteWidth_cons, Text.byteWidth_nil]
        omega
      have beforeComma : Piece.Shows pieces (base + Text.byteWidth (front ++ [separator]))
          ((word ++ between) ++ [','] ++ tail) := by
        simpa using kindShows
      rw [width, ← Nat.add_assoc]
      exact ⟨kindShows.spells_nil, beforeComma.behind unmarked_comma⟩

/-- Nests that are shown fail in place, whatever the parser takes them for. -/
structure Nest.FailInPlace (context : ParseContext) (pieces : List Piece) (nests : List Nest) :
    Prop where
  asMessage : ∀ inPlural, Nest.Shown pieces nests →
    FailsInPlace pieces (fun tokens => ∀ token ∈ tokens, token.InPlace pieces)
      (messageTokens context inPlural nests)
  asArgument : ∀ inPlural base text, Nested base text nests → Piece.Shows pieces base text →
    FailsInPlace pieces (fun _ => True) (argument context inPlural base nests)
  asOptions : ∀ inPlural seen pending start,
    Nest.Shown pieces nests → (pending ≠ [] → Piece.Shows pieces start pending) →
      FailsInPlace pieces
        (fun options => ∀ option ∈ options, Piece.Spells pieces option.keyOffset [])
        (argumentOptions context inPlural seen pending start nests)

namespace Nest.FailInPlace

variable {context : ParseContext} {rest : List Nest}

theorem nil : FailInPlace context pieces [] where
  asMessage inPlural shown := by
    rw [messageTokens]
    exact .ok (by simp)
  asArgument inPlural base text nested shows := by
    rw [argument]
    exact .error rfl shows.spells_nil
  asOptions inPlural seen pending start shown before := by
    have found := context.failsInPlace_optionKey? before
    rw [argumentOptions]
    generalize context.optionKey? pending start = read at found
    rcases read with error | none | ⟨key, position⟩
    · exact found
    · exact .ok (by simp)
    · exact .error rfl (found key position rfl)

/-- What follows the header of a plural, a select or a styled value. -/
theorem argument_openEnded
    (behind : FailInPlace context pieces rest)
    {inPlural : Bool}
    {base wordOffset : Nat}
    {content name word tail more : List Char}
    (header : Header.read? content = some (.openEnded name word wordOffset tail))
    (apart : ¬ StartWithText rest)
    (nested : Nested (base + Text.byteWidth content) more rest)
    (shows : Piece.Shows pieces base (content ++ more)) :
    FailsInPlace pieces (fun _ => True)
      (argument context inPlural base (.text content base :: rest)) := by
  have shown := shown_of_apart apart nested shows
  have start := shows.spells_nil
  rcases shows.append_left.openEnded header with
    ⟨kindPlace, tailShows⟩
  simp only [argument, header]
  split
  case h_1 rule known =>
    refine .bind _ (failsInPlace_pluralOffset tailShows) ?_
    rintro ⟨offset, text, textStart⟩ textShows
    refine .bind _ (behind.asOptions true [] text textStart shown fun _ => textShows) ?_
    intro options keys
    refine .bind _ (failsInPlace_requireOption textShows.spells_nil) ?_
    rintro _ rfl
    refine .bind _ (failsInPlace_pluralBranches start keys) ?_
    intro branches _
    exact .ok trivial
  case h_2 =>
    split
    case isTrue =>
      refine .bind _ (behind.asOptions inPlural [] tail _ shown fun _ => tailShows) ?_
      intro options keys
      refine .bind _ (failsInPlace_requireOption tailShows.spells_nil) ?_
      rintro _ rfl
      refine .bind _ (failsInPlace_selectBranches start) ?_
      intro branches _
      exact .ok trivial
    case isFalse =>
      refine .bind _ (context.failsInPlace_style tailShows.spells_nil) ?_
      intro style _
      exact ParseContext.failsInPlace_formatted kindPlace

theorem text
    (content : List Char)
    (offset : Nat)
    (behind : FailInPlace context pieces rest) :
    FailInPlace context pieces (.text content offset :: rest) where
  asMessage inPlural shown := by
    rcases shown with impossible | ⟨base, text, nested, shows⟩
    · cases impossible
    · cases nested with
      | text filled noBrace apart later =>
          rw [messageTokens, nestTokens, ok_bind]
          refine .bind _ (behind.asMessage inPlural (shown_of_apart apart later shows)) ?_
          intro tokens placed
          have here := context.inPlace_textTokens [] shows.append_left inPlural []
          exact .ok (List.forall_mem_append.mpr ⟨here, placed⟩)
  asArgument inPlural base text nested shows := by
    cases nested with
    | text filled noBrace apart later =>
        have start := shows.spells_nil
        cases header : Header.read? content with
        | none =>
            simp only [argument, header]
            exact .error rfl start
        | some found =>
            cases found with
            | bare name =>
                simp only [argument, header]
                split
                case isTrue => exact .ok trivial
                case isFalse => exact .error rfl start
            | kind name word wordOffset =>
                simp only [argument, header]
                split
                case isTrue =>
                  exact ParseContext.failsInPlace_formatted (shows.append_left.spells_kind header)
                case isFalse => exact .error rfl start
            | openEnded name word wordOffset tail =>
                exact behind.argument_openEnded header apart later shows
  asOptions inPlural seen pending start shown before := by
    rcases shown with impossible | ⟨base, text, nested, shows⟩
    · cases impossible
    · cases nested with
      | text filled noBrace apart later =>
          rw [argumentOptions]
          exact behind.asOptions inPlural seen content offset
            (shown_of_apart apart later shows) fun _ => shows.append_left

theorem block
    {children : List Nest}
    (offset : Nat)
    (inside : FailInPlace context pieces children)
    (behind : FailInPlace context pieces rest) :
    FailInPlace context pieces (.block children offset :: rest) where
  asMessage inPlural shown := by
    rcases shown with impossible | ⟨base, text, nested, shows⟩
    · cases impossible
    · cases nested with
      | block within later =>
          rcases shows.block with
            ⟨innerShows, laterShows⟩
          have node := inside.asArgument inPlural _ _ within innerShows
          have shown : Shown pieces rest := Or.inr ⟨_, _, later, laterShows⟩
          rw [messageTokens, nestTokens]
          refine .bind (fun tokens => ∀ token ∈ tokens, token.InPlace pieces) ?_ ?_
          · refine .bind _ node ?_
            intro node _
            exact .ok (by simp [Token.InPlace])
          · intro tokens placed
            refine .bind _ (behind.asMessage inPlural shown) ?_
            intro more laterPlaced
            exact .ok (List.forall_mem_append.mpr ⟨placed, laterPlaced⟩)
  asArgument inPlural base text nested shows := by
    rw [argument]
    exact .error rfl shows.spells_nil
  asOptions inPlural seen pending start shown before := by
    rcases shown with impossible | ⟨base, text, nested, shows⟩
    · cases impossible
    · cases nested with
      | block within later =>
          rcases shows.block with
            ⟨innerShows, laterShows⟩
          have found := context.failsInPlace_optionKey? before
          rw [argumentOptions]
          generalize context.optionKey? pending start = read at found
          rcases read with error | none | ⟨key, position⟩
          · exact found
          · refine .error rfl ?_
            split
            case isTrue => exact innerShows.spells_nil
            case isFalse filled => exact (before (by simpa using filled)).spells_nil
          · have keyPlace := found key position rfl
            simp only
            split
            case isTrue => exact .error rfl keyPlace
            case isFalse =>
              rw [bodyTokens]
              refine .bind _ (inside.asMessage inPlural (Or.inr ⟨_, _, within, innerShows⟩)) ?_
              intro tokens placed
              refine .bind _ (failsInPlace_assemble placed) ?_
              intro body _
              refine .bind _ (behind.asOptions inPlural (key :: seen) [] 0
                (Or.inr ⟨_, _, later, laterShows⟩) (by simp)) ?_
              intro options keys
              exact .ok (List.forall_mem_cons.mpr ⟨keyPlace, keys⟩)

end Nest.FailInPlace

/-- Nests that are shown fail in place, by induction over them. -/
theorem Nest.failInPlace
    (context : ParseContext)
    (nests : List Nest) :
    Nest.FailInPlace context pieces nests := by
  induction nests using Nest.induct with
  | nil => exact .nil
  | text content offset rest behind => exact .text content offset behind
  | block children offset rest inside behind => exact .block offset inside behind

/-- A brace that does not nest stands for itself. -/
theorem Nest.ReportsBrace.spells
    {position : Nat}
    {text : List Char}
    {error : PatternError}
    (reports : Nest.ReportsBrace position text error)
    (shows : Piece.Shows pieces position text) :
    Piece.Spells pieces error.offset error.fault.spelling := by
  rcases reports with
    ⟨front, back, ⟨rfl, rfl⟩ | ⟨rfl, rfl⟩⟩
  · exact shows.spells_unmarked (unmarked_of_opensQuote rfl)
  · exact shows.spells_unmarked (unmarked_of_opensQuote rfl)

/-- Whatever fails in a masked pattern fails where the pattern spells it. -/
theorem failsInPlace_messageOfText
    (context : ParseContext)
    (inPlural : Bool) :
    FailsInPlace pieces (fun _ => True)
      (messageOfText context inPlural (Masked.textOf 0 pieces) 0) := by
  have shows := Piece.shows_whole pieces
  rw [messageOfText]
  cases read : Nest.read (Masked.textOf 0 pieces) 0 with
  | error error => exact (Nest.reportsBrace_of_read read).spells shows
  | ok nests =>
      have shown : Nest.Shown pieces nests :=
        Or.inr ⟨_, _, Nest.read_eq_ok_iff.mp read, shows⟩
      rw [ok_bind, messageOfNests]
      refine .bind _ ((Nest.failInPlace context nests).asMessage inPlural shown) ?_
      intro tokens placed
      exact failsInPlace_assemble placed

/-! ## The places of a pattern -/

/-- The text stands in the pattern from a byte on. -/
def StandsAt (pattern : String) (offset : Nat) (text : String) : Prop :=
  ∃ front back, pattern = front ++ text ++ back ∧ front.utf8ByteSize = offset

/-- The character stands at a byte of the pattern, outside its quoted sections. -/
def StandsUnquotedAt (pattern : String) (offset : Nat) (character : Char) : Prop :=
  StandsAt pattern offset (String.singleton character) ∧
    ∃ before after,
      Piece.read pattern.toList = before ++ .plain character :: after ∧
        Text.byteWidth (Piece.sources before) = offset

/-- The error is at a place of the pattern where one can see what is wrong: a
boundary of characters that is not inside a quoted section, and the start of
the brace or tag that the error is about. -/
structure PatternError.PointsInto (error : PatternError) (pattern : String) : Prop where
  within : error.offset ≤ pattern.utf8ByteSize
  onBoundary : String.Pos.Raw.IsValid pattern ⟨error.offset⟩
  unquoted : ∀ before piece after,
    Piece.read pattern.toList = before ++ piece :: after →
      piece.quote?.isSome →
        error.offset ≤ Text.byteWidth (Piece.sources before) ∨
          Text.byteWidth (Piece.sources before) + Text.byteWidth piece.source ≤ error.offset
  unmatchedBrace : error.fault = .unmatchedBrace → StandsUnquotedAt pattern error.offset '}'
  unclosedBrace : error.fault = .unclosedBrace → StandsUnquotedAt pattern error.offset '{'
  unmatchedClosingTag : ∀ name,
    error.fault = .unmatchedClosingTag name →
      StandsAt pattern error.offset ("</" ++ name ++ ">")
  mismatchedClosingTag : ∀ name opened,
    error.fault = .mismatchedClosingTag name opened →
      StandsAt pattern error.offset ("</" ++ name ++ ">")
  unclosedTag : ∀ name,
    error.fault = .unclosedTag name →
      StandsAt pattern error.offset ("<" ++ name ++ ">")

section Place

variable
    {pattern : String}
    {text : List Char}
    {front back : List Piece}

/-- The pieces of a run of characters give its text in the pattern. -/
theorem standsAt_of_pieces
    (split : Piece.read pattern.toList = front ++ (text.map .plain ++ back)) :
    StandsAt pattern (Text.byteWidth (Piece.sources front)) (String.ofList text) := by
  refine ⟨String.ofList (Piece.sources front), String.ofList (Piece.sources back), ?_,
    Text.utf8ByteSize_ofList _⟩
  have whole := Piece.sources_read pattern.toList
  rw [split, Piece.sources_append, Piece.sources_append, Piece.sources_map_plain] at whole
  rw [← String.ofList_append, ← String.ofList_append, List.append_assoc, whole,
    String.ofList_toList]

/-- A place where something stands is a boundary of characters. -/
theorem isValid_of_standsAt
    {offset : Nat}
    {text : String}
    (stands : StandsAt pattern offset text) :
    String.Pos.Raw.IsValid pattern ⟨offset⟩ := by
  rcases stands with
    ⟨front, back, rfl, rfl⟩
  rw [String.append_assoc]
  exact String.Pos.Raw.isValid_iff_exists_append.mpr ⟨front, text ++ back, rfl, rfl⟩

/-- A place between pieces is inside none of them. -/
theorem not_inside_piece
    {before after rest : List Piece}
    {piece : Piece}
    (split : front ++ rest = before ++ piece :: after) :
    Text.byteWidth (Piece.sources front) ≤ Text.byteWidth (Piece.sources before) ∨
      Text.byteWidth (Piece.sources before) + Text.byteWidth piece.source ≤
        Text.byteWidth (Piece.sources front) := by
  rcases List.append_eq_append_iff.mp split with ⟨more, rfl, _⟩ | ⟨more, rfl, later⟩
  · left
    simp
  · cases more with
    | nil =>
        left
        simp
    | cons first more =>
        right
        cases (List.cons.inj later).1
        simp

/-- At a place where the pieces spell what a fault is about, the fault is seen. -/
theorem PatternError.pointsInto_of_pieces
    {fault : PatternFault}
    (split : Piece.read pattern.toList = front ++ (fault.spelling.map .plain ++ back)) :
    PatternError.PointsInto ⟨fault, Text.byteWidth (Piece.sources front)⟩ pattern := by
  have stands := standsAt_of_pieces split
  have brace {character : Char} (spelled : fault.spelling = [character]) :
      StandsUnquotedAt pattern (Text.byteWidth (Piece.sources front)) character := by
    rw [spelled] at split stands
    exact ⟨stands, front, back, split, rfl⟩
  have closing {name : String} (spelled : fault.spelling = (Tag.mk true name.toList).source) :
      StandsAt pattern (Text.byteWidth (Piece.sources front)) ("</" ++ name ++ ">") := by
    have text : String.ofList fault.spelling = "</" ++ name ++ ">" := by
      rw [spelled, ← String.toList_inj]
      simp [Tag.source]
    rwa [text] at stands
  refine ⟨?_, isValid_of_standsAt stands, ?_, ?_, ?_, ?_, ?_, ?_⟩
  · exact (isValid_of_standsAt stands).le_rawEndPos
  · intro before piece after shape _
    exact not_inside_piece (split.symm.trans shape)
  · rintro rfl
    exact brace rfl
  · rintro rfl
    exact brace rfl
  · rintro name rfl
    exact closing rfl
  · rintro name opened rfl
    exact closing rfl
  · rintro name rfl
    simpa [PatternFault.spelling, Tag.source, String.append_assoc] using stands

end Place

/-- Whatever is wrong with a pattern is reported at a place of the pattern where
one can see it. -/
theorem parse_error_in_place
    {ignoreTags : Bool}
    {pattern : String}
    {error : PatternError}
    (failed : parse ignoreTags pattern = .error error) :
    error.PointsInto pattern := by
  rw [parse, mapError_eq_error_iff] at failed
  rcases failed with
    ⟨reported, outcome, rfl⟩
  have fails : FailsInPlace (Piece.read pattern.toList) (fun _ => True) (.error reported) :=
    outcome ▸ failsInPlace_messageOfText _ false
  rcases fails with
    ⟨front, back, split, width⟩
  rw [← width, Masked.unmaskedOffset_textOf split]
  exact PatternError.pointsInto_of_pieces split

/-- A quoted section with a wide character, and a tag without a partner behind it. -/
def strayTagPattern : String :=
  "'\x7bä\x7d' \x7bn, plural, other \x7bü</b>\x7d\x7d"

/-- The stray tag of `strayTagPattern` is reported at its own byte, behind a quoted
section with a wide character. -/
theorem parse_error_in_place_strayTag :
    parse false strayTagPattern = .error ⟨.unmatchedClosingTag "b", 28⟩ ∧
      PatternError.PointsInto ⟨.unmatchedClosingTag "b", 28⟩ strayTagPattern := by
  have failed : parse false strayTagPattern = .error ⟨.unmatchedClosingTag "b", 28⟩ := by
    decide +kernel
  exact ⟨failed, parse_error_in_place failed⟩

end IcuMessage
