import IcuMessage.Proofs.Outcome
import IcuMessage.Proofs.Pattern.Nesting
import IcuMessage.Pattern.Parser

/-!
# Faults about braces

Only the nesting of a text complains about braces: whatever the parser takes nests
for, no fault about a brace comes of it (`sparesBraces_messageOfNests`).  And no
other fault is worded like one about a brace
(`PatternFault.text_eq_unmatchedBraceText_iff` and its counterpart).
-/

namespace IcuMessage

/-- The fault is about a brace without a partner. -/
def PatternFault.isBrace : PatternFault → Bool
  | .unmatchedBrace | .unclosedBrace => true
  | _ => false

/-- A computation does not complain about braces. -/
def SparesBraces {α : Type} : Except PatternError α → Prop
  | .ok _ => True
  | .error error => error.fault.isBrace = false

namespace SparesBraces

variable {α β : Type}

theorem ok {value : α} : SparesBraces (.ok value) := trivial

theorem error
    {fault : PatternFault}
    {offset : Nat}
    (other : fault.isBrace = false) :
    SparesBraces (.error ⟨fault, offset⟩ : Except PatternError α) := other

/-- What complains of no brace step by step does not complain of one as a whole. -/
theorem bind
    {first : Except PatternError α}
    {next : α → Except PatternError β}
    (before : SparesBraces first)
    (behind : ∀ value, SparesBraces (next value)) :
    SparesBraces (first >>= next) := by
  cases first with
  | error error => exact before
  | ok value => exact behind value

end SparesBraces

/-- Pairing tags complains of tags alone. -/
theorem sparesBraces_assembleFrom
    (stack : List OpenTag)
    (current : List Node)
    (tokens : List Token) :
    SparesBraces (assembleFrom stack current tokens) := by
  fun_induction assembleFrom stack current tokens with
  | case1 current => exact .ok
  | case2 current innermost outer => exact .error rfl
  | case3 stack current node rest ih => exact ih
  | case4 stack current name offset rest ih => exact ih
  | case5 current name offset rest => exact .error rfl
  | case6 current offset rest innermost outer ih => exact ih
  | case7 current name offset rest innermost outer differs => exact .error rfl

namespace ParseContext

variable (context : ParseContext)

theorem sparesBraces_style (text : List Char) (offset : Nat) :
    SparesBraces (context.style text offset) := by
  simp only [style]
  split
  case isTrue => exact .error rfl
  case isFalse => split <;> exact .ok

theorem sparesBraces_optionKey? (text : List Char) (start : Nat) :
    SparesBraces (context.optionKey? text start) := by
  rw [optionKey?]
  split
  case isTrue => exact .ok
  case isFalse =>
    split
    case isTrue => exact .error rfl
    case isFalse => exact .ok

omit context in
theorem sparesBraces_formatted
    (name kind : List Char)
    (offset : Nat)
    (style : Option Style) :
    SparesBraces (formatted name kind offset style) := by
  rw [formatted]
  split
  case h_1 => exact .ok
  case h_2 => exact .error rfl

end ParseContext

theorem sparesBraces_pluralOffset (text : List Char) (start : Nat) :
    SparesBraces (pluralOffset text start) := by
  rw [pluralOffset]
  split
  case h_1 => exact .ok
  case h_2 =>
    simp only
    split
    case h_1 => exact .ok
    case h_2 => exact .error rfl

theorem sparesBraces_requireOption (start : Nat) (options : List ParsedOption) :
    SparesBraces (requireOption start options) := by
  rw [requireOption]
  split
  case isTrue => exact .error rfl
  case isFalse => exact .ok

theorem PluralKey.isBrace_of_read_eq_error
    {text : String}
    {fault : PatternFault}
    (read : PluralKey.read text = .error fault) :
    fault.isBrace = false := by
  rw [PluralKey.read] at read
  split at read
  case h_1 =>
    split at read <;> cases read
    rfl
  case h_2 =>
    split at read <;> cases read
    rfl

/-- The branches of a plural are refused for their keys, or for want of `other`. -/
theorem sparesBraces_pluralBranches (name : String) (start : Nat) (options : List ParsedOption) :
    SparesBraces (pluralBranches name start options) := by
  rw [pluralBranches]
  refine .bind ?_ ?_
  · generalize ([] : List (PluralKey × Message)) = table
    induction options generalizing table with
    | nil => exact .ok
    | cons option rest ih =>
        rw [List.foldlM_cons]
        refine .bind ?_ ih
        cases read : PluralKey.read option.key with
        | ok key => exact .ok
        | error fault => exact .error (PluralKey.isBrace_of_read_eq_error read)
  · intro branches
    split
    case isTrue => exact .ok
    case isFalse => exact .error rfl

theorem sparesBraces_selectBranches (name : String) (start : Nat) (options : List ParsedOption) :
    SparesBraces (selectBranches name start options) := by
  simp only [selectBranches]
  split
  case isTrue => exact .ok
  case isFalse => exact .error rfl

/-- Nests are read without a complaint about braces, whatever they are taken for. -/
structure Nest.ReadSparesBraces (context : ParseContext) (nests : List Nest) : Prop where
  asMessage : ∀ inPlural, SparesBraces (messageTokens context inPlural nests)
  asArgument : ∀ inPlural start, SparesBraces (argument context inPlural start nests)
  asOptions : ∀ inPlural seen pending start,
    SparesBraces (argumentOptions context inPlural seen pending start nests)

namespace Nest.ReadSparesBraces

variable {context : ParseContext} {rest : List Nest}

theorem nil : ReadSparesBraces context [] where
  asMessage inPlural := by
    rw [messageTokens]
    exact .ok
  asArgument inPlural start := by
    rw [argument]
    exact .error rfl
  asOptions inPlural seen pending start := by
    have key := context.sparesBraces_optionKey? pending start
    rw [argumentOptions]
    generalize context.optionKey? pending start = read at key
    rcases read with failed | none | ⟨key, position⟩
    · exact key
    · exact .ok
    · exact .error rfl

/-- Whatever is wrong with the header of an argument, it is not a brace. -/
theorem argument_text
    (behind : ReadSparesBraces context rest)
    (inPlural : Bool)
    (start : Nat)
    (content : List Char)
    (offset : Nat) :
    SparesBraces (argument context inPlural start (.text content offset :: rest)) := by
  rw [argument.eq_def]
  simp only
  split
  case h_1 => exact .error rfl
  case h_2 => split <;> first | exact .ok | exact .error rfl
  case h_3 =>
    split
    case isTrue => exact ParseContext.sparesBraces_formatted ..
    case isFalse => exact .error rfl
  case h_4 name kind kindOffset tail header =>
    split
    case h_1 rule known =>
      refine .bind (sparesBraces_pluralOffset ..) ?_
      rintro ⟨offset, text, textStart⟩
      refine .bind (behind.asOptions ..) fun options => ?_
      refine .bind (sparesBraces_requireOption ..) fun options => ?_
      exact .bind (sparesBraces_pluralBranches ..) fun branches => .ok
    case h_2 =>
      split
      case isTrue =>
        refine .bind (behind.asOptions ..) fun options => ?_
        refine .bind (sparesBraces_requireOption ..) fun options => ?_
        exact .bind (sparesBraces_selectBranches ..) fun branches => .ok
      case isFalse =>
        refine .bind (context.sparesBraces_style ..) fun style => ?_
        exact ParseContext.sparesBraces_formatted ..

theorem text
    (content : List Char)
    (offset : Nat)
    (behind : ReadSparesBraces context rest) :
    ReadSparesBraces context (.text content offset :: rest) where
  asMessage inPlural := by
    rw [messageTokens, nestTokens, ok_bind]
    exact .bind (behind.asMessage inPlural) fun tokens => .ok
  asArgument inPlural start := behind.argument_text inPlural start content offset
  asOptions inPlural seen pending start := by
    rw [argumentOptions]
    exact behind.asOptions inPlural seen content offset

theorem block
    {children : List Nest}
    (offset : Nat)
    (inside : ReadSparesBraces context children)
    (behind : ReadSparesBraces context rest) :
    ReadSparesBraces context (.block children offset :: rest) where
  asMessage inPlural := by
    rw [messageTokens, nestTokens]
    refine .bind (.bind (inside.asArgument ..) fun node => .ok) fun tokens => ?_
    exact .bind (behind.asMessage inPlural) fun later => .ok
  asArgument inPlural start := by
    rw [argument]
    exact .error rfl
  asOptions inPlural seen pending start := by
    have key := context.sparesBraces_optionKey? pending start
    rw [argumentOptions]
    generalize context.optionKey? pending start = read at key
    rcases read with failed | none | ⟨key, position⟩
    · exact key
    · exact .error rfl
    · simp only
      split
      case isTrue => exact .error rfl
      case isFalse =>
        rw [bodyTokens]
        refine .bind (inside.asMessage inPlural) fun tokens => ?_
        refine .bind (sparesBraces_assembleFrom ..) fun body => ?_
        exact .bind (behind.asOptions ..) fun later => .ok

end Nest.ReadSparesBraces

/-- Once the braces of a pattern are paired into nests, they are not complained about
again. -/
theorem sparesBraces_messageOfNests
    (context : ParseContext)
    (inPlural : Bool)
    (nests : List Nest) :
    SparesBraces (messageOfNests context inPlural nests) := by
  have reads : Nest.ReadSparesBraces context nests := by
    induction nests using Nest.induct with
    | nil => exact .nil
    | text content offset rest behind => exact .text content offset behind
    | block children offset rest inside behind => exact .block offset inside behind
  exact .bind (reads.asMessage inPlural) fun tokens => sparesBraces_assembleFrom ..

theorem SparesBraces.mapError
    {α : Type}
    {computation : Except PatternError α}
    {change : PatternError → PatternError}
    (spares : SparesBraces computation)
    (kept : ∀ error, (change error).fault = error.fault) :
    SparesBraces (computation.mapError change) := by
  cases computation with
  | ok value => trivial
  | error error =>
      show (change error).fault.isBrace = false
      rw [kept]
      exact spares

/-! ## The wording of the complaints -/

/-- What the parser says of a closing brace that closes nothing. -/
def unmatchedBraceText : String := "unmatched '\x7d'"

/-- What the parser says of an opening brace that is never closed. -/
def unclosedBraceText : String := "unclosed '\x7b'"

theorem append_ne_of_head_differs
    {head text : String}
    (differs : ¬ head.toList <+: text.toList)
    (tail : String) :
    head ++ tail ≠ text := by
  rintro rfl
  refine differs ?_
  rw [String.toList_append]
  exact List.prefix_append _ _

/-- A text does not speak of braces if its beginning does not. -/
theorem ne_braceTexts_of_head
    (head item tail : String)
    (differs :
      ¬ head.toList <+: unmatchedBraceText.toList ∧ ¬ head.toList <+: unclosedBraceText.toList) :
    head ++ item ++ tail ≠ unmatchedBraceText ∧ head ++ item ++ tail ≠ unclosedBraceText := by
  rw [String.append_assoc]
  exact ⟨append_ne_of_head_differs differs.1 _, append_ne_of_head_differs differs.2 _⟩

namespace PatternFault

/-- No other complaint is worded like one about braces. -/
theorem text_ne_braceTexts
    {fault : PatternFault}
    (other : fault.isBrace = false) :
    fault.text ≠ unmatchedBraceText ∧ fault.text ≠ unclosedBraceText := by
  have quoting := ne_braceTexts_of_head
  simp only [unmatchedBraceText, unclosedBraceText] at quoting ⊢
  cases fault with
  | unmatchedBrace => cases other
  | unclosedBrace => cases other
  | unmatchedClosingTag name => exact quoting "unmatched closing tag '</" name ">'" (by simp)
  | mismatchedClosingTag closing opened =>
      refine quoting ("closing tag '</" ++ closing ++ ">' does not match '<") opened ">'" ?_
      simp
  | unclosedTag name => exact quoting "unclosed tag '<" name ">'" (by simp)
  | invalidPlaceholder source => exact quoting "invalid placeholder '\x7b" source "\x7d'" (by simp)
  | emptyStyle =>
      show "empty format style" ≠ _ ∧ "empty format style" ≠ _
      simp
  | unsupportedKind kind => exact quoting "unsupported argument type '" kind "'" (by simp)
  | offsetOutOfRange =>
      show "plural offset out of range" ≠ _ ∧ "plural offset out of range" ≠ _
      simp
  | missingOther name => exact quoting "missing 'other' option in '" name "'" (by simp)
  | missingKey =>
      show "missing option key" ≠ _ ∧ "missing option key" ≠ _
      simp
  | invalidKey key => exact quoting "invalid option key '" key "'" (by simp)
  | missingMessage key => exact quoting "missing message for option '" key "'" (by simp)
  | duplicateOption key => exact quoting "duplicate option '" key "'" (by simp)
  | noOption =>
      show "expected at least one option" ≠ _ ∧ "expected at least one option" ≠ _
      simp
  | invalidExactKey key => exact quoting "invalid exact plural key '" key "'" (by simp)
  | invalidCategoryKey key => exact quoting "invalid plural category '" key "'" (by simp)

/-- No other fault is worded like an unmatched brace. -/
theorem text_eq_unmatchedBraceText_iff {fault : PatternFault} :
    fault.text = unmatchedBraceText ↔ fault = .unmatchedBrace := by
  constructor
  · intro same
    cases brace : fault.isBrace with
    | false => exact absurd same (text_ne_braceTexts brace).1
    | true =>
        have differ : "unclosed '\x7b'" ≠ "unmatched '\x7d'" := by simp
        cases fault <;> cases brace
        · rfl
        · exact absurd same differ
  · rintro rfl
    rfl

theorem text_eq_unclosedBraceText_iff {fault : PatternFault} :
    fault.text = unclosedBraceText ↔ fault = .unclosedBrace := by
  constructor
  · intro same
    cases brace : fault.isBrace with
    | false => exact absurd same (text_ne_braceTexts brace).2
    | true =>
        have differ : "unmatched '\x7d'" ≠ "unclosed '\x7b'" := by simp
        cases fault <;> cases brace
        · exact absurd same differ
        · rfl
  · rintro rfl
    rfl

end PatternFault

end IcuMessage
