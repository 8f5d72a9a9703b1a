import IcuMessage.Formatter.Basic
import IcuMessage.Proofs.Evaluation.SpelledTags
import IcuMessage.Proofs.Message.Validation
import IcuMessage.Proofs.Pattern.SpelledTags

/-!
# Formatters that ignore tags

Tags may be left in the text when a pattern is read, or read as notation and
written out again when it is formatted.  Both ways lead to the same parts: the
message of the one is that of the other with its tags spelled out, and neither
validation nor evaluation tells the two apart.

The main statement is `ignoring_tags_agrees`.
-/

namespace IcuMessage

namespace Message

variable {sheet : StyleSheet}

/-- A message is validated node by node. -/
theorem validate_eq_foldlM (message : Message) (memo : StyleMemo) :
    message.validate sheet memo =
      message.foldlM (fun memo node => node.validate sheet memo) memo := by
  induction message generalizing memo with
  | nil =>
      rw [validate, List.foldlM_nil]
      rfl
  | cons node rest ih =>
      rw [validate, List.foldlM_cons]
      simp only [ih]

theorem mergesLiterals_validate :
    MergesLiterals fun memo (node : Node) => node.validate sheet memo := by
  intro memo first second
  simp [Node.validate]

theorem validate_append (front back : Message) (memo : StyleMemo) :
    Message.validate sheet (front ++ back) memo =
      (front.validate sheet memo >>= fun further => back.validate sheet further) := by
  simp only [validate_eq_foldlM, List.foldlM_append]

/-- A message validates as it does with its tags spelled out. -/
def ValidatesSpelled (sheet : StyleSheet) (message : Message) : Prop :=
  ∀ memo, Message.validate sheet (spelledNodes message) memo = message.validate sheet memo

theorem ValidatesSpelled.spelled
    {message : Message}
    (validates : message.ValidatesSpelled sheet)
    (memo : StyleMemo) :
    message.spelled.validate sheet memo = message.validate sheet memo := by
  rw [Message.spelled, validate_eq_foldlM, foldlM_joinLiterals mergesLiterals_validate,
    ← validate_eq_foldlM, validates]

theorem ValidatesSpelled.cons
    {node : Node}
    {rest : Message}
    (first : ∀ memo, Message.validate sheet node.spelledNodes memo = node.validate sheet memo)
    (later : rest.ValidatesSpelled sheet) :
    ValidatesSpelled sheet (node :: rest) := by
  intro memo
  rw [spelledNodes_cons, validate_append, first, validate]
  have later : ∀ memo, Message.validate sheet (spelledNodes rest) memo = rest.validate sheet memo :=
    later
  simp only [later]

theorem ValidatesSpelled.branches
    {κ : Type}
    {branches : List (κ × Message)}
    (inside : ∀ branch ∈ branches, branch.2.ValidatesSpelled sheet)
    (memo : StyleMemo) :
    (branches.map fun branch => (branch.1, branch.2.spelled)).foldlM
        (fun memo branch => Message.validate sheet branch.2 memo) memo =
      branches.foldlM (fun memo branch => Message.validate sheet branch.2 memo) memo := by
  induction branches generalizing memo with
  | nil => rfl
  | cons branch rest ih =>
      have later := ih fun branch member => inside branch (List.mem_cons_of_mem _ member)
      rw [List.map_cons, List.foldlM_cons, List.foldlM_cons,
        (inside branch List.mem_cons_self).spelled]
      simp only [later]

/-- Spelling out tags makes no difference to validation. -/
theorem validatesSpelled (sheet : StyleSheet) (message : Message) :
    message.ValidatesSpelled sheet := by
  induction message using Message.induct with
  | nil =>
      intro memo
      rw [spelledNodes_nil]
  | literal text rest later =>
      refine .cons (fun memo => ?_) later
      rw [Node.spelledNodes, validate_singleton]
  | argument name rest later =>
      refine .cons (fun memo => ?_) later
      rw [Node.spelledNodes, validate_singleton]
  | formatted category name style rest later =>
      refine .cons (fun memo => ?_) later
      rw [Node.spelledNodes, validate_singleton]
  | plural name rule offset branches rest inside later =>
      refine .cons (fun memo => ?_) later
      rw [Node.spelledNodes, validate_singleton, Node.validate, Node.validate,
        spelledPluralBranches_eq_map, Table.lookup_map, Option.isSome_map,
        validatePluralBranches_eq_foldlM, validatePluralBranches_eq_foldlM,
        ValidatesSpelled.branches inside]
  | select name branches rest inside later =>
      refine .cons (fun memo => ?_) later
      rw [Node.spelledNodes, validate_singleton, Node.validate, Node.validate,
        spelledSelectBranches_eq_map, Table.lookup_map, Option.isSome_map,
        validateSelectBranches_eq_foldlM, validateSelectBranches_eq_foldlM,
        ValidatesSpelled.branches inside]
  | pound rest later =>
      refine .cons (fun memo => ?_) later
      rw [Node.spelledNodes, validate_singleton]
  | tag name children rest inside later =>
      refine .cons (fun memo => ?_) later
      have contents : Message.validate sheet (spelledNodes children) memo =
          children.validate sheet memo :=
        inside memo
      rw [Node.spelledNodes, validate, Node.validate, ok_bind, validate_append, contents,
        Node.validate]
      cases children.validate sheet memo with
      | error error => rfl
      | ok further => simp [validate_singleton, Node.validate]

/-- Where tags are written out, a message has the parts that it has with its tags spelled
out. -/
theorem outcome_parts_spelled
    {environment : Environment}
    (written : environment.tags = {})
    (message : Message) :
    (message.spelled.parts environment).outcome = (message.parts environment).outcome := by
  rw [parts, parts, outcome_partsIn, outcome_partsIn, gatherIn_spelled written]

end Message

/-- Two attempts to build a formatter fail alike, or their formatters give the
same parts for all values or fail alike on them. -/
def SameFormatting (first second : Except Failure Formatter) : Prop :=
  (∃ error, first = .error error ∧ second = .error error) ∨
    ∃ left right, first = .ok left ∧ second = .ok right ∧
      ∀ values, (left.formatToParts values).outcome = (right.formatToParts values).outcome

/-- The settings under which no tag has an effect and all are written out. -/
def writtenTags (provider : Provider) (ignoreTags : Bool) : FormatterSettings where
  provider := provider
  tags := {}
  ignoreTags := ignoreTags

/-- A pattern that is accepted with its tags is accepted with its tags ignored,
and where tags are written out, formatters that heed and that ignore them agree. -/
theorem ignoring_tags_agrees
    {pattern : String}
    {message : Message}
    (accepted : parse false pattern = .ok message) :
    (∃ spelled, parse true pattern = .ok spelled) ∧
      ∀ (provider : Provider) (locales : List String) (sheet : StyleSheet),
        SameFormatting
          (Formatter.create (.pattern pattern) locales sheet (writtenTags provider false)).outcome
          (Formatter.create (.pattern pattern) locales sheet (writtenTags provider true)).outcome := by
  have ignored := parse_ignoring_tags accepted
  refine ⟨⟨_, ignored⟩, ?_⟩
  intro provider locales sheet
  have valid := (Message.validatesSpelled sheet message).spelled {}
  simp only [Formatter.create, Source.message, writtenTags, accepted, ignored,
    Traced.outcome_bind, Traced.outcome_liftM, Traced.outcome_report, Traced.outcome_pure,
    ok_bind, valid]
  rcases provider.exists_outcome_negotiate locales with
    ⟨locale, settled⟩
  rw [settled]
  cases message.validate sheet {} with
  | error error => exact Or.inl ⟨error, rfl, rfl⟩
  | ok styles =>
      refine Or.inr ⟨_, _, rfl, rfl, ?_⟩
      intro values
      exact (Message.outcome_parts_spelled rfl message).symm

/-- A quoted brace, a plural inside a tag, and a tag inside the plural. -/
def taggedPattern : String :=
  "<b>'\x7b'a'\x7d' \x7bn, plural, other \x7b<i>#</i> left\x7d\x7d</b>"

/-- With and without tags, `taggedPattern` formats alike in all locales. -/
theorem ignoring_tags_agrees_taggedPattern :
    parse false taggedPattern =
        .ok [.tag "b" [.literal "\x7ba\x7d ",
          .plural "n" .cardinal 0 [(.other, [.tag "i" [.pound], .literal " left"])]]] ∧
      ∀ locales,
        SameFormatting
          (Formatter.create (.pattern taggedPattern) locales {}
            (writtenTags .locales false)).outcome
          (Formatter.create (.pattern taggedPattern) locales {}
            (writtenTags .locales true)).outcome := by
  have accepted : parse false taggedPattern =
      .ok [.tag "b" [.literal "\x7ba\x7d ",
        .plural "n" .cardinal 0 [(.other, [.tag "i" [.pound], .literal " left"])]]] := by
    decide +kernel
  exact ⟨accepted, fun locales => (ignoring_tags_agrees accepted).2 .locales locales {}⟩

end IcuMessage
