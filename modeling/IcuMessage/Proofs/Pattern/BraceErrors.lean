import IcuMessage.Proofs.Pattern.Braces
import IcuMessage.Proofs.Pattern.BraceFaults
import IcuMessage.Proofs.Pattern.Faults
import IcuMessage.Proofs.Pattern.QuotingRule
import Mathlib.Order.Bounds.Basic

/-!
# Errors about braces

Braces in quoted sections do not count.  A pattern is refused for its first
unquoted closing brace that closes nothing, or else for its first unquoted
opening brace that is never closed, whatever else may be wrong with it; and
where the unquoted braces are balanced, no brace is complained about, at any
depth (`brace_errors_exact`).
-/

namespace IcuMessage

/-- The text of pieces outside of quoted sections. -/
def Piece.unquoted : List Piece → List Char
  | [] => []
  | .plain character :: rest => character :: unquoted rest
  | _ :: rest => unquoted rest

namespace Piece

@[simp]
theorem unquoted_plain (character : Char) (rest : List Piece) :
    unquoted (.plain character :: rest) = character :: unquoted rest := rfl

/-- A section stands for no unquoted text. -/
theorem unquoted_quoted
    {piece : Piece}
    (quoted : piece.quote?.isSome)
    (rest : List Piece) :
    unquoted (piece :: rest) = unquoted rest := by
  cases piece with
  | plain character => cases quoted
  | apostrophe => rfl
  | quoted content => rfl

@[simp]
theorem unquoted_append (front back : List Piece) :
    unquoted (front ++ back) = unquoted front ++ unquoted back := by
  induction front with
  | nil => rfl
  | cons piece rest ih =>
      rcases piece.plain_or_quoted with ⟨character, rfl⟩ | quoted
      · rw [List.cons_append, unquoted_plain, ih, unquoted_plain, List.cons_append]
      · rw [List.cons_append, unquoted_quoted quoted, ih, unquoted_quoted quoted]

end Piece

/-- Where a class of characters keeps away from markers, the masked text of pieces has the
characters of the class that are not quoted. -/
theorem Masked.filter_textOf
    {accepts : Char → Bool}
    (unmarked : ∀ character, accepts character = true → Unmarked character)
    (index : Nat)
    (pieces : List Piece) :
    (Masked.textOf index pieces).filter accepts = (Piece.unquoted pieces).filter accepts := by
  induction pieces generalizing index with
  | nil => rfl
  | cons piece rest ih =>
      rcases piece.plain_or_quoted with ⟨character, rfl⟩ | quoted
      · rw [Masked.textOf, Piece.unquoted_plain, List.filter_cons, List.filter_cons, ih]
      · have nothing : (marker index).filter accepts = [] := by
          rw [List.filter_eq_nil_iff]
          intro character member accepted
          exact (unmarked character accepted).not_mem_marker index member
        rw [Masked.textOf_quoted quoted, Piece.unquoted_quoted quoted, List.filter_append, nothing,
          List.nil_append, ih]

theorem unmarked_of_isBrace {character : Char} (brace : isBrace character = true) :
    Unmarked character := by
  rw [isBrace, Bool.or_eq_true, beq_iff_eq, beq_iff_eq] at brace
  rcases brace with rfl | rfl
  · exact unmarked_of_opensQuote rfl
  · exact unmarked_of_opensQuote rfl

/-- The masked text of pieces has their unquoted braces. -/
theorem braces_textOf (index : Nat) (pieces : List Piece) :
    braces (Masked.textOf index pieces) = braces (Piece.unquoted pieces) :=
  Masked.filter_textOf (fun _ brace => unmarked_of_isBrace brace) index pieces

/-! ## The braces of a pattern -/

/-- What the unquoted braces of a pattern are like, by the outcome of parsing it. -/
inductive BraceOutcome (pieces : List Piece) (outcome : Except PatternError Message) : Prop where
  | balanced
      (paired : Balanced (braces (Piece.unquoted pieces)))
      (spares : SparesBraces outcome) :
      BraceOutcome pieces outcome
  | unmatched {front back : List Piece}
      (shape : pieces = front ++ .plain '}' :: back)
      (before : Balanced (braces (Piece.unquoted front)))
      (reported : outcome = .error ⟨.unmatchedBrace, Text.byteWidth (Piece.sources front)⟩) :
      BraceOutcome pieces outcome
  | unclosed {front back : List Piece}
      (shape : pieces = front ++ .plain '{' :: back)
      (before : Balanced (braces (Piece.unquoted front)))
      (after : OnlyOpens (braces (Piece.unquoted back)))
      (reported : outcome = .error ⟨.unclosedBrace, Text.byteWidth (Piece.sources front)⟩) :
      BraceOutcome pieces outcome

/-- The braces of a pattern outside of its sections decide which of the outcomes it has.
-/
theorem braceOutcome_parse (ignoreTags : Bool) (pattern : String) :
    BraceOutcome (Piece.read pattern.toList) (parse ignoreTags pattern) := by
  have report := Nest.braceReport_read 0 (Masked.ofPattern pattern.toList).text
  rw [parse]
  simp only [messageOfText]
  generalize Nest.read (Masked.ofPattern pattern.toList).text 0 = nested at report
  cases report with
  | balanced paired =>
      refine .balanced ?_ ?_
      · exact braces_textOf 0 _ ▸ paired
      · exact (sparesBraces_messageOfNests _ false _).mapError fun _ => rfl
  | unmatched shape before =>
      rcases Masked.exists_plain_of_textOf_eq (unmarked_of_opensQuote rfl) shape with
        ⟨front, back, split, rfl, _⟩
      rw [braces_textOf] at before
      refine .unmatched split before ?_
      rw [error_bind, Nat.zero_add, ← Masked.unmaskedOffset_textOf split]
      rfl
  | unclosed shape before after =>
      rcases Masked.exists_plain_of_textOf_eq (unmarked_of_opensQuote rfl) shape with
        ⟨front, back, split, rfl, rfl⟩
      rw [braces_textOf] at before after
      refine .unclosed split before after ?_
      rw [error_bind, Nat.zero_add, ← Masked.unmaskedOffset_textOf split]
      rfl

/-- At a byte of the pattern there is an unquoted closing brace that closes nothing. -/
def UnmatchedBraceAt (pattern : String) (offset : Nat) : Prop :=
  ∃ front back,
    Piece.Scanned pattern.toList (front ++ .plain '}' :: back) ∧
      Text.byteWidth (Piece.sources front) = offset ∧
        ClosesNothing (braces (Piece.unquoted front))

/-- At a byte of the pattern there is an unquoted opening brace that is never closed. -/
def UnclosedBraceAt (pattern : String) (offset : Nat) : Prop :=
  ∃ front back,
    Piece.Scanned pattern.toList (front ++ .plain '{' :: back) ∧
      Text.byteWidth (Piece.sources front) = offset ∧
        NeverClosed (braces (Piece.unquoted back))

/-- Every unquoted brace of the pattern has its partner. -/
def BracesBalance (pattern : String) : Prop :=
  ∃ pieces, Piece.Scanned pattern.toList pieces ∧ Balanced (braces (Piece.unquoted pieces))

section Places

variable {front back before after : List Piece}

/-- No closing brace without a partner stands in front of a balanced beginning. -/
theorem byteWidth_le_of_closesNothing
    (paired : Balanced (braces (Piece.unquoted front)))
    (split : front ++ back = before ++ .plain '}' :: after)
    (nothing : ClosesNothing (braces (Piece.unquoted before))) :
    Text.byteWidth (Piece.sources front) ≤ Text.byteWidth (Piece.sources before) := by
  rcases split_append split with ⟨more, rfl, _⟩ | ⟨more, rfl, _⟩
  · rw [Piece.unquoted_append, braces_append] at paired
    exact absurd nothing paired.closing_partner
  · simp

/-- No opening brace without a partner stands in a balanced beginning. -/
theorem byteWidth_le_of_neverClosed
    (paired : Balanced (braces (Piece.unquoted front)))
    (split : front ++ back = before ++ .plain '{' :: after)
    (never : NeverClosed (braces (Piece.unquoted after))) :
    Text.byteWidth (Piece.sources front) ≤ Text.byteWidth (Piece.sources before) := by
  rcases split_append split with ⟨more, rfl, rfl⟩ | ⟨more, rfl, _⟩
  · rw [Piece.unquoted_append, braces_append] at paired never
    exact absurd never.of_append paired.opening_partner
  · simp

end Places

section Pattern

variable {pattern : String}

/-- Where closing braces all have partners, none is unmatched. -/
theorem not_unmatchedBraceAt
    (opens : OnlyOpens (braces (Piece.unquoted (Piece.read pattern.toList))))
    (offset : Nat) :
    ¬ UnmatchedBraceAt pattern offset := by
  rintro ⟨front, back, scanned, _, nothing⟩
  rw [Piece.scanned_iff.mp scanned, Piece.unquoted_append, braces_append] at opens
  exact opens.closing_partner nothing

theorem not_unclosedBraceAt
    (paired : Balanced (braces (Piece.unquoted (Piece.read pattern.toList))))
    (offset : Nat) :
    ¬ UnclosedBraceAt pattern offset := by
  rintro ⟨front, back, scanned, _, never⟩
  rw [Piece.scanned_iff.mp scanned, Piece.unquoted_append, braces_append] at paired
  exact paired.opening_partner never

/-- The first closing brace behind balanced text is the first that is unmatched. -/
theorem isLeast_unmatchedBraceAt
    {front back : List Piece}
    (shape : Piece.read pattern.toList = front ++ .plain '}' :: back)
    (paired : Balanced (braces (Piece.unquoted front))) :
    IsLeast ({place | UnmatchedBraceAt pattern place}) (Text.byteWidth (Piece.sources front)) := by
  constructor
  · exact ⟨front, back, Piece.scanned_iff.mpr shape, rfl, paired.closesNothing⟩
  · rintro _ ⟨before, after, scanned, rfl, nothing⟩
    have split := shape.symm.trans (Piece.scanned_iff.mp scanned)
    exact byteWidth_le_of_closesNothing paired split nothing

/-- The first opening brace behind balanced text is the first that is unclosed, if none
behind it closes it. -/
theorem isLeast_unclosedBraceAt
    {front back : List Piece}
    (shape : Piece.read pattern.toList = front ++ .plain '{' :: back)
    (paired : Balanced (braces (Piece.unquoted front)))
    (opens : OnlyOpens (braces (Piece.unquoted back))) :
    IsLeast ({place | UnclosedBraceAt pattern place}) (Text.byteWidth (Piece.sources front)) := by
  constructor
  · exact ⟨front, back, Piece.scanned_iff.mpr shape, rfl, opens.neverClosed⟩
  · rintro _ ⟨before, after, scanned, rfl, never⟩
    have split := shape.symm.trans (Piece.scanned_iff.mp scanned)
    exact byteWidth_le_of_neverClosed paired split never

/-- A brace that is never closed does not make another brace unmatched. -/
theorem onlyOpens_of_unclosed
    {front back : List Piece}
    (shape : Piece.read pattern.toList = front ++ .plain '{' :: back)
    (paired : Balanced (braces (Piece.unquoted front)))
    (opens : OnlyOpens (braces (Piece.unquoted back))) :
    OnlyOpens (braces (Piece.unquoted (Piece.read pattern.toList))) := by
  rw [shape, Piece.unquoted_append, braces_append]
  exact .opening paired opens

/-- No brace of a pattern is at fault exactly if its unquoted braces are balanced. -/
theorem bracesBalance_iff :
    BracesBalance pattern ↔ Balanced (braces (Piece.unquoted (Piece.read pattern.toList))) := by
  constructor
  · rintro ⟨pieces, scanned, paired⟩
    rwa [Piece.scanned_iff.mp scanned]
  · intro paired
    exact ⟨_, Piece.scanned_read _, paired⟩

variable {ignoreTags : Bool} {offset : Nat}

/-- The parser reports the first unmatched brace, and does so whenever there is one. -/
theorem parse_unmatchedBrace_iff :
    parse ignoreTags pattern = .error ⟨.unmatchedBrace, offset⟩ ↔
      IsLeast ({place | UnmatchedBraceAt pattern place}) offset := by
  cases braceOutcome_parse ignoreTags pattern with
  | balanced paired spares =>
      constructor
      · intro failed
        rw [failed] at spares
        cases spares
      · intro least
        exact absurd least.1 (not_unmatchedBraceAt (.balanced paired) offset)
  | unmatched shape before reported =>
      have first := isLeast_unmatchedBraceAt shape before
      rw [reported]
      constructor
      · intro same
        cases same
        exact first
      · intro least
        rw [least.unique first]
  | unclosed shape before after reported =>
      rw [reported]
      constructor
      · intro same
        cases same
      · intro least
        exact absurd least.1 (not_unmatchedBraceAt (onlyOpens_of_unclosed shape before after) offset)

/-- The parser reports the first unclosed brace, unless some brace is unmatched. -/
theorem parse_unclosedBrace_iff :
    parse ignoreTags pattern = .error ⟨.unclosedBrace, offset⟩ ↔
      (∀ other, ¬ UnmatchedBraceAt pattern other) ∧
        IsLeast ({place | UnclosedBraceAt pattern place}) offset := by
  cases braceOutcome_parse ignoreTags pattern with
  | balanced paired spares =>
      constructor
      · intro failed
        rw [failed] at spares
        cases spares
      · rintro ⟨_, least⟩
        exact absurd least.1 (not_unclosedBraceAt paired offset)
  | unmatched shape before reported =>
      rw [reported]
      constructor
      · intro same
        cases same
      · rintro ⟨noneUnmatched, _⟩
        exact absurd (isLeast_unmatchedBraceAt shape before).1 (noneUnmatched _)
  | unclosed shape before after reported =>
      have first := isLeast_unclosedBraceAt shape before after
      rw [reported]
      constructor
      · intro same
        cases same
        exact ⟨not_unmatchedBraceAt (onlyOpens_of_unclosed shape before after), first⟩
      · rintro ⟨_, least⟩
        rw [least.unique first]

/-- The parser reports a brace exactly if the unquoted braces are not balanced. -/
theorem parse_blames_braces_iff :
    (∃ offset,
      parse ignoreTags pattern = .error ⟨.unmatchedBrace, offset⟩ ∨
        parse ignoreTags pattern = .error ⟨.unclosedBrace, offset⟩) ↔
      ¬ BracesBalance pattern := by
  rw [bracesBalance_iff]
  cases braceOutcome_parse ignoreTags pattern with
  | balanced paired spares =>
      constructor
      · rintro ⟨offset, failed | failed⟩
        · rw [failed] at spares
          cases spares
        · rw [failed] at spares
          cases spares
      · exact absurd paired
  | unmatched shape before reported =>
      have first := isLeast_unmatchedBraceAt shape before
      constructor
      · intro _ paired
        exact not_unmatchedBraceAt (.balanced paired) _ first.1
      · intro _
        exact ⟨_, Or.inl reported⟩
  | unclosed shape before after reported =>
      have first := isLeast_unclosedBraceAt shape before after
      constructor
      · intro _ paired
        exact not_unclosedBraceAt paired _ first.1
      · intro _
        exact ⟨_, Or.inr reported⟩

end Pattern

/-- An outcome is the failure with a wording at a byte of the pattern. -/
def FailsWith (outcome : Except PatternError Message) (wording : String) (offset : Nat) : Prop :=
  ∃ error, outcome = .error error ∧ error.fault.text = wording ∧ error.offset = offset

section Wording

variable {outcome : Except PatternError Message}

/-- The wording of an unmatched brace tells its fault. -/
theorem failsWith_unmatchedBraceText_iff {offset : Nat} :
    FailsWith outcome unmatchedBraceText offset ↔ outcome = .error ⟨.unmatchedBrace, offset⟩ := by
  constructor
  · rintro ⟨error, rfl, worded, rfl⟩
    rw [← PatternFault.text_eq_unmatchedBraceText_iff.mp worded]
  · rintro rfl
    exact ⟨_, rfl, rfl, rfl⟩

theorem failsWith_unclosedBraceText_iff {offset : Nat} :
    FailsWith outcome unclosedBraceText offset ↔ outcome = .error ⟨.unclosedBrace, offset⟩ := by
  constructor
  · rintro ⟨error, rfl, worded, rfl⟩
    rw [← PatternFault.text_eq_unclosedBraceText_iff.mp worded]
  · rintro rfl
    exact ⟨_, rfl, rfl, rfl⟩

end Wording

/-- A pattern fails for the first of its unquoted closing braces that close
nothing, or if there is none, for the first of its unquoted opening braces that
are never closed; it fails for a brace whenever its unquoted braces do not
balance, and only then. -/
theorem brace_errors_exact (ignoreTags : Bool) (pattern : String) :
    (∀ offset,
      FailsWith (parse ignoreTags pattern) unmatchedBraceText offset ↔
        IsLeast {place | UnmatchedBraceAt pattern place} offset) ∧
    (∀ offset,
      FailsWith (parse ignoreTags pattern) unclosedBraceText offset ↔
        (∀ other, ¬ UnmatchedBraceAt pattern other) ∧
          IsLeast {place | UnclosedBraceAt pattern place} offset) ∧
    ((∃ offset,
      FailsWith (parse ignoreTags pattern) unmatchedBraceText offset ∨
        FailsWith (parse ignoreTags pattern) unclosedBraceText offset) ↔
      ¬ BracesBalance pattern) := by
  simp only [failsWith_unmatchedBraceText_iff, failsWith_unclosedBraceText_iff]
  refine ⟨?_, ?_, ?_⟩
  · intro offset
    exact parse_unmatchedBrace_iff
  · intro offset
    exact parse_unclosedBrace_iff
  · exact parse_blames_braces_iff

end IcuMessage
