import IcuMessage.Proofs.Outcome
import IcuMessage.Proofs.Pattern.HeaderText
import IcuMessage.Proofs.Pattern.Nesting
import IcuMessage.Pattern.Parser

/-!
# Relocation of masked text

The same text may start at another byte.  Then all its offsets are moved by the same
distance, and nothing else changes: the nests, the tokens and the options are the same
up to their offsets, the message is the same, and an error is the same one, moved
(`messageOfText_relocated`).

Each step of the parser is shown to commute with moving the offsets.  For steps in a row
this is `relocated_bind`, and for nests it is an induction on them.
-/

namespace IcuMessage

/-! ## Things with offsets -/

/-- An error, moved by a distance. -/
def PatternError.relocate (distance : Nat) (error : PatternError) : PatternError :=
  { error with offset := error.offset + distance }

/-- An outcome, moved by a distance: its error, or the offsets inside its value. -/
def relocated
    {α : Type}
    (distance : Nat)
    (inside : α → α) :
    Except PatternError α → Except PatternError α
  | .ok value => .ok (inside value)
  | .error error => .error (error.relocate distance)

namespace Nest

mutual

/-- A nest, moved by a distance. -/
def relocate (distance : Nat) : Nest → Nest
  | .text content offset => .text content (offset + distance)
  | .block children offset => .block (relocateAll distance children) (offset + distance)

/-- Neighbouring nests, moved by a distance. -/
def relocateAll (distance : Nat) : List Nest → List Nest
  | [] => []
  | nest :: rest => nest.relocate distance :: relocateAll distance rest

end

/-- An opening brace, moved by a distance. -/
def Opening.relocate (distance : Nat) (opening : Opening) : Opening :=
  ⟨opening.offset + distance, relocateAll distance opening.before⟩

end Nest

/-- A token, moved by a distance. -/
def Token.relocate (distance : Nat) : Token → Token
  | .node inner => .node inner
  | .opening name offset => .opening name (offset + distance)
  | .closing name offset => .closing name (offset + distance)

/-- An open tag, moved by a distance. -/
def OpenTag.relocate (distance : Nat) (tag : OpenTag) : OpenTag :=
  { tag with offset := tag.offset + distance }

/-- An option, moved by a distance. -/
def ParsedOption.relocate (distance : Nat) (option : ParsedOption) : ParsedOption :=
  { option with keyOffset := option.keyOffset + distance }

variable {α β : Type} (distance : Nat)

/-- Steps in a row may be moved one by one. -/
theorem relocated_bind
    (insideFirst : α → α)
    {inside : β → β}
    {first moved : Except PatternError α}
    {next nextMoved : α → Except PatternError β}
    (before : moved = relocated distance insideFirst first)
    (behind : ∀ value, nextMoved (insideFirst value) = relocated distance inside (next value)) :
    (moved >>= nextMoved) = relocated distance inside (first >>= next) := by
  subst before
  cases first with
  | error error => rfl
  | ok value => exact behind value

/-- Without offsets in its value, only the error of an outcome is moved. -/
theorem relocated_id (outcome : Except PatternError α) :
    relocated distance id outcome = outcome.mapError (PatternError.relocate distance) := by
  cases outcome <;> rfl

/-! ## Nests -/

namespace Nest

@[simp]
theorem relocateAll_nil : relocateAll distance [] = [] := by
  rw [relocateAll]

@[simp]
theorem relocateAll_cons (nest : Nest) (rest : List Nest) :
    relocateAll distance (nest :: rest) = nest.relocate distance :: relocateAll distance rest := by
  rw [relocateAll]

@[simp]
theorem relocate_text (content : List Char) (offset : Nat) :
    relocate distance (.text content offset) = .text content (offset + distance) := by
  rw [relocate]

@[simp]
theorem relocate_block (children : List Nest) (offset : Nat) :
    relocate distance (.block children offset) =
      .block (relocateAll distance children) (offset + distance) := by
  rw [relocate]

@[simp]
theorem relocateAll_append (front back : List Nest) :
    relocateAll distance (front ++ back) =
      relocateAll distance front ++ relocateAll distance back := by
  induction front with
  | nil => simp
  | cons nest rest ih => simp [ih]

@[simp]
theorem relocateAll_reverse (nests : List Nest) :
    relocateAll distance nests.reverse = (relocateAll distance nests).reverse := by
  induction nests with
  | nil => simp
  | cons nest rest ih => simp [ih]

@[simp]
theorem isEmpty_relocateAll (nests : List Nest) :
    (relocateAll distance nests).isEmpty = nests.isEmpty := by
  cases nests <;> simp

@[simp]
theorem ofPending_relocated (pending : List Char) (start : Nat) :
    ofPending pending (start + distance) = relocateAll distance (ofPending pending start) := by
  simp only [ofPending]
  split <;> simp

/-- Moving nests does not change what they are the nests of. -/
@[simp]
theorem sourceList_relocateAll (nests : List Nest) :
    sourceList (relocateAll distance nests) = sourceList nests := by
  induction nests using Nest.induct with
  | nil => simp
  | text content offset rest behind => simp [sourceList, source, behind]
  | block children offset rest inside behind => simp [sourceList, source, inside, behind]

/-- From a moved state a text is read into moved nests, or to a moved error. -/
theorem readFrom_relocated
    (stack : List Opening)
    (current : List Nest)
    (pending : List Char)
    (start position : Nat)
    (text : List Char) :
    readFrom (stack.map (Opening.relocate distance)) (relocateAll distance current) pending
        (start + distance) (position + distance) text =
      relocated distance (relocateAll distance)
        (readFrom stack current pending start position text) := by
  induction text generalizing stack current pending start position with
  | nil =>
      rw [readFrom.eq_def, readFrom.eq_def, List.getLast?_map]
      cases stack.getLast? with
      | none => simp [relocated]
      | some outermost => rfl
  | cons character rest ih =>
      rw [readFrom.eq_def, readFrom.eq_def]
      simp only [Nat.add_right_comm position distance]
      split
      case isTrue =>
        rw [← ih]
        simp [Opening.relocate]
      case isFalse =>
        split
        case isTrue =>
          cases stack with
          | nil => rfl
          | cons opening outer =>
              simp only [List.map_cons, ← ih]
              simp [Opening.relocate, Nat.add_right_comm]
        case isFalse => exact ih ..

/-- A text that starts elsewhere nests alike. -/
theorem read_relocated (text : List Char) (base : Nat) :
    Nest.read text (base + distance) =
      relocated distance (relocateAll distance) (Nest.read text base) := by
  have moved := readFrom_relocated distance [] [] [] base base text
  rwa [relocateAll_nil] at moved

end Nest

/-! ## Tags -/

/-- Moved tokens pair as they did, and a tag at fault is blamed where it was moved to. -/
theorem assembleFrom_relocated
    (stack : List OpenTag)
    (current : List Node)
    (tokens : List Token) :
    assembleFrom (stack.map (OpenTag.relocate distance)) current
        (tokens.map (Token.relocate distance)) =
      relocated distance id (assembleFrom stack current tokens) := by
  induction tokens generalizing stack current with
  | nil =>
      rw [List.map_nil, assembleFrom.eq_def, assembleFrom.eq_def]
      cases stack <;> rfl
  | cons token rest ih =>
      rw [List.map_cons]
      cases token with
      | node node =>
          rw [Token.relocate, assembleFrom, assembleFrom, ih]
      | opening name offset =>
          rw [Token.relocate, assembleFrom, assembleFrom, ← ih]
          rfl
      | closing name offset =>
          rw [Token.relocate]
          cases stack with
          | nil =>
              rw [List.map_nil, assembleFrom, assembleFrom]
              rfl
          | cons innermost outer =>
              rw [List.map_cons, OpenTag.relocate, assembleFrom, assembleFrom]
              split
              case isTrue => exact ih ..
              case isFalse => rfl

theorem assemble_relocated (tokens : List Token) :
    assemble (tokens.map (Token.relocate distance)) = relocated distance id (assemble tokens) :=
  assembleFrom_relocated distance [] [] tokens

@[simp]
theorem Tag.relocate_token (tag : Tag) (offset : Nat) :
    (tag.token offset).relocate distance = tag.token (offset + distance) := by
  rw [Tag.token, Tag.token]
  split <;> rfl

/-! ## Parts of the parser -/

namespace ParseContext

variable (context : ParseContext)

@[simp]
theorem map_relocate_literalTokens (pending : List Char) :
    (context.literalTokens pending).map (Token.relocate distance) =
      context.literalTokens pending := by
  rw [literalTokens]
  split <;> rfl

/-- Text further on in a pattern has the same tokens, further on. -/
theorem textTokens_relocated
    (inPlural : Bool)
    (done : Nat)
    (pending : List Char)
    (offset : Nat)
    (text : List Char) :
    context.textTokens inPlural done pending (offset + distance) text =
      (context.textTokens inPlural done pending offset text).map (Token.relocate distance) := by
  induction text generalizing done pending offset with
  | nil => simp [textTokens]
  | cons character rest ih =>
      rw [textTokens.eq_def, textTokens.eq_def]
      simp only [Nat.add_right_comm offset distance, ih]
      cases done with
      | succ done => rfl
      | zero =>
          simp only
          split
          case isTrue => simp [Token.relocate]
          case isFalse =>
            generalize (if context.ignoreTags then none else Tag.read? (character :: rest)) = read
            cases read with
            | none => rfl
            | some tag => simp

/-- A style does not depend on where it stands, and its error moves with it. -/
theorem style_relocated (text : List Char) (offset : Nat) :
    context.style text (offset + distance) =
      relocated distance id (context.style text offset) := by
  simp only [style]
  split
  case isTrue => rfl
  case isFalse => split <;> rfl

/-- The key of an option, with its offset moved. -/
def relocateKey (distance : Nat) (found : Option (String × Nat)) : Option (String × Nat) :=
  found.map fun key => (key.1, key.2 + distance)

/-- A key does not depend on where it stands; its place, and its error, move with it. -/
theorem optionKey?_relocated (text : List Char) (start : Nat) :
    context.optionKey? text (start + distance) =
      relocated distance (relocateKey distance) (context.optionKey? text start) := by
  rw [optionKey?, optionKey?]
  split
  case isTrue => rfl
  case isFalse =>
    split
    case isTrue => rfl
    case isFalse =>
      simp only [Nat.add_right_comm start distance]
      rfl

omit context in
theorem formatted_relocated
    (name kind : List Char)
    (kindOffset : Nat)
    (style : Option Style) :
    formatted name kind (kindOffset + distance) style =
      relocated distance id (formatted name kind kindOffset style) := by
  rw [formatted, formatted]
  split <;> rfl

end ParseContext

/-- The offset of a plural does not depend on where it stands; what follows it moves with
it. -/
theorem pluralOffset_relocated (text : List Char) (start : Nat) :
    pluralOffset text (start + distance) =
      relocated distance (fun found => (found.1, found.2.1, found.2.2 + distance))
        (pluralOffset text start) := by
  rw [pluralOffset, pluralOffset]
  cases clause : Header.offsetClause? text with
  | none => rfl
  | some found =>
      rcases found with
        ⟨digits, rest⟩
      have wide := Header.byteWidth_digits_le clause
      simp only [Nat.add_right_comm start distance]
      cases Text.readInt64? digits with
      | some offset => rfl
      | none =>
          -- The error is as far before the end of the clause as the digits are wide, and
          -- that is behind the start.
          have behind : start + (Text.byteWidth text - Text.byteWidth rest) + distance -
                Text.byteWidth digits =
              start + (Text.byteWidth text - Text.byteWidth rest) - Text.byteWidth digits +
                distance := by
            omega
          simp only [behind]
          rfl

theorem requireOption_relocated (start : Nat) (options : List ParsedOption) :
    requireOption (start + distance) (options.map (ParsedOption.relocate distance)) =
      relocated distance (List.map (ParsedOption.relocate distance))
        (requireOption start options) := by
  cases options <;> rfl

theorem pluralBranches_relocated (name : String) (start : Nat) (options : List ParsedOption) :
    pluralBranches name (start + distance) (options.map (ParsedOption.relocate distance)) =
      relocated distance id (pluralBranches name start options) := by
  rw [pluralBranches, pluralBranches]
  refine relocated_bind distance id ?_ fun branches => ?_
  · generalize ([] : List (PluralKey × Message)) = table
    induction options generalizing table with
    | nil => rfl
    | cons option rest ih =>
        rw [List.map_cons, List.foldlM_cons, List.foldlM_cons]
        refine relocated_bind distance id ?_ ih
        rw [ParsedOption.relocate]
        cases PluralKey.read option.key <;> rfl
  · simp only [id]
    split <;> rfl

/-- Moved options are the same branches of a select. -/
theorem selectBranches_relocated (name : String) (start : Nat) (options : List ParsedOption) :
    selectBranches name (start + distance) (options.map (ParsedOption.relocate distance)) =
      relocated distance id (selectBranches name start options) := by
  have same : (options.map (ParsedOption.relocate distance)).map
        (fun option => (option.key, option.body)) =
      options.map fun option => (option.key, option.body) := by
    simp [ParsedOption.relocate]
  simp only [selectBranches, same]
  split <;> rfl

/-! ## Messages -/

/-- Behind a block no text is pending, so its start does not matter. -/
theorem argumentOptions_of_nothing_pending
    (context : ParseContext)
    (inPlural : Bool)
    (seen : List String)
    (start other : Nat)
    (nests : List Nest) :
    argumentOptions context inPlural seen [] start nests =
      argumentOptions context inPlural seen [] other nests := by
  rcases nests with _ | ⟨content | children, rest⟩
  · rw [argumentOptions, argumentOptions]
    rfl
  · rw [argumentOptions, argumentOptions]
  · rw [argumentOptions, argumentOptions]
    rfl

/-- Whatever nests are taken for, moving them moves the offsets of what is read. -/
structure Nest.ReadRelocated
    (context : ParseContext) (distance : Nat) (nests : List Nest) : Prop where
  asMessage : ∀ inPlural,
    messageTokens context inPlural (Nest.relocateAll distance nests) =
      relocated distance (List.map (Token.relocate distance))
        (messageTokens context inPlural nests)
  asArgument : ∀ inPlural start,
    argument context inPlural (start + distance) (Nest.relocateAll distance nests) =
      relocated distance id (argument context inPlural start nests)
  asOptions : ∀ inPlural seen pending start,
    argumentOptions context inPlural seen pending (start + distance)
        (Nest.relocateAll distance nests) =
      relocated distance (List.map (ParsedOption.relocate distance))
        (argumentOptions context inPlural seen pending start nests)

namespace Nest.ReadRelocated

variable {context : ParseContext} {distance : Nat} {rest : List Nest}

theorem nil : ReadRelocated context distance [] where
  asMessage inPlural := by
    rw [relocateAll_nil, messageTokens]
    rfl
  asArgument inPlural start := by
    rw [relocateAll_nil, argument, argument]
    rfl
  asOptions inPlural seen pending start := by
    rw [relocateAll_nil, argumentOptions, argumentOptions, context.optionKey?_relocated]
    rcases context.optionKey? pending start with error | none | ⟨key, position⟩ <;> rfl

/-- What follows the header of a plural, a select or a styled value. -/
theorem argument_openEnded
    (behind : ReadRelocated context distance rest)
    (inPlural : Bool)
    (start : Nat)
    {content name kind tail : List Char}
    {kindOffset : Nat}
    (header : Header.read? content = some (.openEnded name kind kindOffset tail))
    (offset : Nat) :
    argument context inPlural (start + distance)
        (.text content (offset + distance) :: relocateAll distance rest) =
      relocated distance id (argument context inPlural start (.text content offset :: rest)) := by
  simp only [argument, header, Nat.add_right_comm start distance, sourceList_relocateAll]
  split
  case h_1 rule known =>
    refine relocated_bind distance _ (pluralOffset_relocated ..) fun found => ?_
    refine relocated_bind distance _ (behind.asOptions ..) fun options => ?_
    refine relocated_bind distance _ (requireOption_relocated ..) fun options => ?_
    exact relocated_bind distance _ (pluralBranches_relocated ..) fun branches => rfl
  case h_2 =>
    split
    case isTrue =>
      refine relocated_bind distance _ (behind.asOptions ..) fun options => ?_
      refine relocated_bind distance _ (requireOption_relocated ..) fun options => ?_
      exact relocated_bind distance _ (selectBranches_relocated ..) fun branches => rfl
    case isFalse =>
      refine relocated_bind distance _ (context.style_relocated ..) fun style => ?_
      exact ParseContext.formatted_relocated ..

theorem text
    (content : List Char)
    (offset : Nat)
    (behind : ReadRelocated context distance rest) :
    ReadRelocated context distance (.text content offset :: rest) where
  asMessage inPlural := by
    rw [relocateAll_cons, relocate_text, messageTokens, messageTokens, nestTokens, nestTokens,
      context.textTokens_relocated, ok_bind, ok_bind]
    refine relocated_bind distance _ (behind.asMessage inPlural) fun later => ?_
    rw [relocated, List.map_append]
  asArgument inPlural start := by
    rw [relocateAll_cons, relocate_text]
    cases header : Header.read? content with
    | none =>
        simp only [argument, header, sourceList, source, sourceList_relocateAll]
        rfl
    | some found =>
        cases found with
        | bare name =>
            simp only [argument, header, sourceList, source, sourceList_relocateAll,
              isEmpty_relocateAll]
            split <;> rfl
        | kind name kind kindOffset =>
            simp only [argument, header, sourceList, source, sourceList_relocateAll,
              isEmpty_relocateAll, Nat.add_right_comm start distance]
            split
            case isTrue => exact ParseContext.formatted_relocated ..
            case isFalse => rfl
        | openEnded name kind kindOffset tail =>
            exact behind.argument_openEnded inPlural start header offset
  asOptions inPlural seen pending start := by
    rw [relocateAll_cons, relocate_text, argumentOptions, argumentOptions]
    exact behind.asOptions inPlural seen content offset

theorem block
    {children : List Nest}
    (offset : Nat)
    (inside : ReadRelocated context distance children)
    (behind : ReadRelocated context distance rest) :
    ReadRelocated context distance (.block children offset :: rest) where
  asMessage inPlural := by
    rw [relocateAll_cons, relocate_block, messageTokens, messageTokens, nestTokens, nestTokens]
    refine relocated_bind distance (List.map (Token.relocate distance)) ?_ fun tokens => ?_
    · exact relocated_bind distance _ (inside.asArgument inPlural offset) fun node => rfl
    · refine relocated_bind distance _ (behind.asMessage inPlural) fun later => ?_
      rw [relocated, List.map_append]
  asArgument inPlural start := by
    have same := sourceList_relocateAll distance (.block children offset :: rest)
    rw [relocateAll_cons, relocate_block] at same ⊢
    rw [argument, argument, same]
    rfl
  asOptions inPlural seen pending start := by
    rw [relocateAll_cons, relocate_block, argumentOptions, argumentOptions,
      context.optionKey?_relocated]
    rcases context.optionKey? pending start with error | none | ⟨key, position⟩
    · rfl
    · simp only [relocated, ParseContext.relocateKey, Option.map_none]
      split <;> rfl
    · simp only [relocated, ParseContext.relocateKey, Option.map_some]
      split
      case isTrue => rfl
      case isFalse =>
        -- The options behind a block are read from the start 0, wherever the block is.
        have later := behind.asOptions inPlural (key :: seen) [] 0
        rw [argumentOptions_of_nothing_pending context inPlural _ (0 + distance) 0] at later
        rw [bodyTokens, bodyTokens]
        refine relocated_bind distance _ (inside.asMessage inPlural) fun tokens => ?_
        refine relocated_bind distance _ (assemble_relocated ..) fun body => ?_
        exact relocated_bind distance _ later fun options => rfl

end Nest.ReadRelocated

/-- Nests are read alike wherever they are moved, by induction over them. -/
theorem Nest.readRelocated
    (context : ParseContext)
    (nests : List Nest) :
    Nest.ReadRelocated context distance nests := by
  induction nests using Nest.induct with
  | nil => exact .nil
  | text content offset rest behind => exact .text content offset behind
  | block children offset rest inside behind => exact .block offset inside behind

/-- The message of a text does not depend on where the text starts, and an error in it
moves with the text. -/
theorem messageOfText_relocated
    (context : ParseContext)
    (inPlural : Bool)
    (text : List Char)
    (base : Nat) :
    messageOfText context inPlural text (base + distance) =
      (messageOfText context inPlural text base).mapError (PatternError.relocate distance) := by
  rw [← relocated_id, messageOfText, messageOfText]
  refine relocated_bind distance _ (Nest.read_relocated distance text base) fun nests => ?_
  rw [messageOfNests, messageOfNests]
  have reads := Nest.readRelocated distance context nests
  refine relocated_bind distance _ (reads.asMessage inPlural) fun tokens => ?_
  exact assemble_relocated distance tokens

end IcuMessage
