import IcuMessage.Proofs.Outcome
import IcuMessage.Proofs.Pattern.HeaderText
import IcuMessage.Proofs.Pattern.Places
import IcuMessage.Proofs.Pattern.TagText
import IcuMessage.Proofs.Pattern.TextTokens

/-!
# Where patterns fail

Every error of a masked text is at a place between two pieces of the pattern,
and there the pieces spell the brace or the tag that the fault is about.
`FailsInPlace` says so of a computation, together with what it says of the
values that the computation gives; such statements about the parts of the
parser are put together by `FailsInPlace.bind`.
-/

namespace IcuMessage

/-- The notation that a fault is about and that is reported where it starts. -/
def PatternFault.spelling : PatternFault → List Char
  | .unmatchedBrace => ['}']
  | .unclosedBrace => ['{']
  | .unmatchedClosingTag name | .mismatchedClosingTag name _ => (Tag.mk true name.toList).source
  | .unclosedTag name => (Tag.mk false name.toList).source
  | _ => []

variable {pieces : List Piece} {α β : Type}

/-- What a computation gives is sound, and where it fails, the pieces spell what
the fault is about. -/
def FailsInPlace (pieces : List Piece) (sound : α → Prop) : Except PatternError α → Prop
  | .ok value => sound value
  | .error error => Piece.Spells pieces error.offset error.fault.spelling

namespace FailsInPlace

theorem ok {sound : α → Prop} {value : α} (holds : sound value) :
    FailsInPlace pieces sound (.ok value) := holds

/-- A fault that is about no notation may be at any place. -/
theorem error
    {sound : α → Prop}
    {fault : PatternFault}
    {offset : Nat}
    (silent : fault.spelling = [])
    (place : Piece.Spells pieces offset []) :
    FailsInPlace pieces sound (.error ⟨fault, offset⟩) := by
  show Piece.Spells pieces offset fault.spelling
  rwa [silent]

/-- What fails in place step by step fails in place as a whole. -/
theorem bind
    (sound : α → Prop)
    {soundBehind : β → Prop}
    {first : Except PatternError α}
    {next : α → Except PatternError β}
    (before : FailsInPlace pieces sound first)
    (behind : ∀ value, sound value → FailsInPlace pieces soundBehind (next value)) :
    FailsInPlace pieces soundBehind (first >>= next) := by
  cases first with
  | error error => exact before
  | ok value => exact behind value before

end FailsInPlace

/-! ## Tags -/

/-- A tag among tokens is where the pieces spell it. -/
def Token.InPlace (pieces : List Piece) : Token → Prop
  | .node _ => True
  | .opening name offset => Piece.Spells pieces offset (Tag.mk false name.toList).source
  | .closing name offset => Piece.Spells pieces offset (Tag.mk true name.toList).source

/-- A tag at fault is reported where the pattern spells it. -/
theorem failsInPlace_assembleFrom
    {stack : List OpenTag}
    {current : List Node}
    {tokens : List Token}
    (opened : ∀ tag ∈ stack, Piece.Spells pieces tag.offset (Tag.mk false tag.name.toList).source)
    (placed : ∀ token ∈ tokens, token.InPlace pieces) :
    FailsInPlace pieces (fun _ => True) (assembleFrom stack current tokens) := by
  induction tokens generalizing stack current with
  | nil =>
      rw [assembleFrom.eq_def]
      cases stack with
      | nil => exact .ok trivial
      | cons innermost outer => exact opened innermost List.mem_cons_self
  | cons token rest ih =>
      rcases List.forall_mem_cons.mp placed with
        ⟨first, later⟩
      cases token with
      | node node =>
          rw [assembleFrom]
          exact ih opened later
      | opening name offset =>
          rw [assembleFrom]
          exact ih (List.forall_mem_cons.mpr ⟨first, opened⟩) later
      | closing name offset =>
          cases stack with
          | nil =>
              rw [assembleFrom]
              exact first
          | cons innermost outer =>
              rw [assembleFrom]
              split
              case isTrue => exact ih (List.forall_mem_cons.mp opened).2 later
              case isFalse => exact first

theorem failsInPlace_assemble
    {tokens : List Token}
    (placed : ∀ token ∈ tokens, token.InPlace pieces) :
    FailsInPlace pieces (fun _ => True) (assemble tokens) :=
  failsInPlace_assembleFrom (by simp) placed

theorem Tag.clearOfMarkers_source
    {tag : Tag}
    (named : IsTagName tag.name) :
    ClearOfMarkers tag.source := by
  constructor
  · exact Tag.markerCharacter_not_mem_source named
  · rw [Tag.source]
    split <;> simp [List.getLast?_cons]

/-- Where the masked text shows a tag, the pieces spell it. -/
theorem Piece.Shows.spells_source
    {offset : Nat}
    {before rest : List Char}
    {tag : Tag}
    (named : IsTagName tag.name)
    (shows : Piece.Shows pieces offset (before ++ (tag.source ++ rest))) :
    Piece.Spells pieces (offset + Text.byteWidth before) tag.source := by
  obtain ⟨inner, whole⟩ : ∃ inner, tag.source = '<' :: inner := by
    rw [Tag.source]
    split <;> exact ⟨_, rfl⟩
  rw [whole, List.cons_append] at shows
  have place := (shows.beside (unmarked_of_opensQuote rfl)).1
  rw [← List.cons_append, ← whole] at place
  exact (place.run (Tag.clearOfMarkers_source named)).1

/-- A tag that the pattern spells is in place as a token. -/
theorem Tag.inPlace_token
    {tag : Tag}
    {offset : Nat}
    (spells : Piece.Spells pieces offset tag.source) :
    (tag.token offset).InPlace pieces := by
  rcases tag with
    ⟨isClosing, name⟩
  cases isClosing <;> simpa [Tag.token, Token.InPlace] using spells

namespace ParseContext

variable (context : ParseContext)

theorem inPlace_literalTokens
    (pending : List Char) :
    ∀ token ∈ context.literalTokens pending, token.InPlace pieces :=
  context.forall_mem_literalTokens fun _ => trivial

/-- The tags of a text are in place, even if the text starts inside a marker. -/
theorem inPlace_textTokens
    {base : Nat}
    {text : List Char}
    (before : List Char)
    (shows : Piece.Shows pieces base (before ++ text))
    (inPlural : Bool)
    (pending : List Char) :
    ∀ token ∈ context.textTokens inPlural 0 pending (base + Text.byteWidth before) text,
      token.InPlace pieces := by
  induction text using context.text_induct inPlural generalizing before pending with
  | nil =>
      rw [textTokens_nil]
      exact context.inPlace_literalTokens pending
  | pound rest inside later =>
      subst inside
      have behind := later (before ++ ['#']) (by simpa using shows) []
      rw [Text.byteWidth_append, ← Nat.add_assoc] at behind
      rw [context.textTokens_pound]
      exact List.forall_mem_append.mpr
        ⟨context.inPlace_literalTokens pending, List.forall_mem_cons.mpr ⟨trivial, behind⟩⟩
  | tag text tag found later =>
      rw [context.textTokens_tag inPlural pending _ found]
      obtain ⟨named, rest, rfl⟩ : IsTagName tag.name ∧ ∃ rest, text = tag.source ++ rest := by
        rw [tag?] at found
        split at found
        case isTrue => cases found
        case isFalse => exact Tag.read?_eq_some_iff.mp found
      rw [← Tag.length_source, List.drop_left] at later
      rw [← Tag.length_source, List.take_left, List.drop_left]
      have behind := later (before ++ tag.source) (by simpa using shows) []
      rw [Text.byteWidth_append, ← Nat.add_assoc] at behind
      refine List.forall_mem_append.mpr
        ⟨context.inPlace_literalTokens pending, List.forall_mem_cons.mpr ⟨?_, behind⟩⟩
      exact Tag.inPlace_token (shows.spells_source named)
  | plain character rest noPound noTag later =>
      have behind := later (before ++ [character]) (by simpa using shows) (character :: pending)
      rw [Text.byteWidth_append, ← Nat.add_assoc] at behind
      rwa [context.textTokens_plain inPlural pending _ noPound noTag]

/-! ## Styles, keys and offsets -/

theorem failsInPlace_style
    {text : List Char}
    {offset : Nat}
    (place : Piece.Spells pieces offset []) :
    FailsInPlace pieces (fun _ => True) (context.style text offset) := by
  simp only [ParseContext.style]
  split
  case isTrue => exact .error rfl place
  case isFalse => split <;> exact .ok trivial

omit context in
theorem failsInPlace_formatted
    {name kind : List Char}
    {offset : Nat}
    {style : Option Style}
    (place : Piece.Spells pieces offset []) :
    FailsInPlace pieces (fun _ => True) (formatted name kind offset style) := by
  rw [formatted]
  split
  case h_1 => exact .ok trivial
  case h_2 => exact .error rfl place

theorem failsInPlace_optionKey?
    {text : List Char}
    {start : Nat}
    (shown : text ≠ [] → Piece.Shows pieces start text) :
    FailsInPlace pieces
      (fun found => ∀ key position, found = some (key, position) →
        Piece.Spells pieces position [])
      (context.optionKey? text start) := by
  rw [optionKey?]
  split
  case isTrue =>
    refine .ok ?_
    intro key position impossible
    cases impossible
  case isFalse filled =>
    have shows := shown (by
      rintro rfl
      exact filled rfl)
    split
    case isTrue => exact .error rfl shows.spells_nil
    case isFalse =>
      refine .ok ?_
      intro key position found
      cases found
      rcases Text.exists_blanks_append_trimStart text with
        ⟨blanks, blank, shape⟩
      have clear : ClearOfMarkers blanks :=
        clearOfMarkers_of_no_score fun character member =>
          ⟨(unmarked_of_isBlank (blank character member)).noMarker,
            (unmarked_of_isBlank (blank character member)).noScore⟩
      have width : Text.byteWidth text - Text.byteWidth (Text.trimStart text) =
          Text.byteWidth blanks := by
        have whole := congrArg Text.byteWidth shape
        rw [Text.byteWidth_append] at whole
        omega
      rw [shape] at shows
      rw [width]
      exact (shows.run clear).2.spells_nil

end ParseContext

/-- A bad offset is reported where it stands, and what follows a good one shows there. -/
theorem failsInPlace_pluralOffset
    {text : List Char}
    {start : Nat}
    (shows : Piece.Shows pieces start text) :
    FailsInPlace pieces (fun read => Piece.Shows pieces read.2.2 read.2.1)
      (pluralOffset text start) := by
  rw [pluralOffset]
  split
  case h_1 => exact .ok shows
  case h_2 digits rest clause =>
    rcases Header.exists_front_of_offsetClause? clause with
      ⟨_, decimal, front, separator, separates, rfl⟩
    have place := shows.behind separates
    have clear : ClearOfMarkers digits := by
      apply clearOfMarkers_of_no_score
      intro digit member
      constructor <;>
        · rintro rfl
          exact absurd (decimal _ member) (by decide)
    have finish : start + (Text.byteWidth (front ++ [separator] ++ (digits ++ rest)) -
        Text.byteWidth rest) =
          start + Text.byteWidth (front ++ [separator]) + Text.byteWidth digits := by
      simp only [Text.byteWidth_append]
      omega
    simp only [finish]
    split
    case h_1 => exact .ok (place.run clear).2
    case h_2 =>
      rw [Nat.add_sub_cancel]
      exact .error rfl place.spells_nil

theorem failsInPlace_requireOption
    {start : Nat}
    {options : List ParsedOption}
    (place : Piece.Spells pieces start []) :
    FailsInPlace pieces (fun required => required = options) (requireOption start options) := by
  rw [requireOption]
  split
  case isTrue => exact .error rfl place
  case isFalse => exact .ok rfl

theorem PluralKey.spelling_of_read_eq_error
    {text : String}
    {fault : PatternFault}
    (read : PluralKey.read text = .error fault) :
    fault.spelling = [] := by
  rw [PluralKey.read] at read
  split at read
  case h_1 =>
    split at read <;> cases read
    rfl
  case h_2 =>
    split at read <;> cases read
    rfl

/-- A bad plural key is reported at the key, and a missing `other` at the argument. -/
theorem failsInPlace_pluralBranches
    {name : String}
    {start : Nat}
    {options : List ParsedOption}
    (place : Piece.Spells pieces start [])
    (keys : ∀ option ∈ options, Piece.Spells pieces option.keyOffset []) :
    FailsInPlace pieces (fun _ => True) (pluralBranches name start options) := by
  rw [pluralBranches]
  refine .bind (fun _ => True) ?_ ?_
  · generalize ([] : List (PluralKey × Message)) = table
    induction options generalizing table with
    | nil => exact .ok trivial
    | cons option rest ih =>
        rcases List.forall_mem_cons.mp keys with
          ⟨first, later⟩
        rw [List.foldlM_cons]
        refine .bind (fun _ => True) ?_ ?_
        · cases read : PluralKey.read option.key with
          | ok key => exact .ok trivial
          | error fault => exact .error (PluralKey.spelling_of_read_eq_error read) first
        · intro table _
          exact ih later table
  · intro branches _
    split
    case isTrue => exact .ok trivial
    case isFalse => exact .error rfl place

/-- A missing `other` of a select is reported at the argument. -/
theorem failsInPlace_selectBranches
    {name : String}
    {start : Nat}
    {options : List ParsedOption}
    (place : Piece.Spells pieces start []) :
    FailsInPlace pieces (fun _ => True) (selectBranches name start options) := by
  simp only [selectBranches]
  split
  case isTrue => exact .ok trivial
  case isFalse => exact .error rfl place

end IcuMessage
