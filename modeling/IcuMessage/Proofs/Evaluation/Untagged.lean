import IcuMessage.Proofs.Evaluation.SameGathering
import IcuMessage.Proofs.Message.Untagged

/-!
# Evaluation of messages without their tags

The contents of a tag are gathered on their own, and their parts are gathered once more
behind what stands before the tag.  Where the rules for tags hand on the parts as they
are, the second gathering comes to the same as gathering the contents in place
(`Message.GathersLike.contents`).  So a tag may be replaced by its contents wherever it
stands.
-/

namespace IcuMessage

/-- Tags hand on the parts of their contents: those with an effect, since no effect
changes the parts, and all others, since they are left away. -/
structure TagRules.HandOn (rules : TagRules) : Prop where
  ignored : rules.fallback = .ignore
  unchanged : ∀ entry ∈ rules.effects, ∀ parts, entry.2 parts = parts

/-- Rules that hand on what a tag contains add its children as they are. -/
theorem TagRules.HandOn.gather
    {rules : TagRules}
    (handOn : rules.HandOn)
    (name : String)
    (children : List Part)
    (gathered : Gathered) :
    rules.gather name children gathered = gathered.addAll children := by
  rw [TagRules.gather]
  cases found : rules.effects.lookup name with
  | some effect =>
      have same : effect children = children :=
        handOn.unchanged _ (Table.mem_of_lookup found) children
      exact congrArg gathered.addAll same
  | none => rw [handOn.ignored]

namespace Message

variable {environment : Environment}

/-- The contents of a tag may stand in its place. -/
theorem GathersLike.contents
    (handOn : environment.tags.HandOn)
    (name : String)
    {nodes children : Message}
    (inside : GathersLike environment nodes children) :
    GathersLike environment nodes [.tag name children] := by
  intro pound gathered
  rw [inside, gatherIn_eq_map_addAll, gatherIn_tag, Message.outcome_partsIn]
  cases children.gatherIn environment pound Gathered.empty with
  | error error => rfl
  | ok inner =>
      simp only [Except.map, ok_bind, gatherIn_nil, handOn.gather]

/-- With such rules a message gathers what it gathers without its tags. -/
theorem gathersUntagged
    (handOn : environment.tags.HandOn)
    (message : Message) :
    GathersLike environment message.untagged message := by
  induction message using Message.induct with
  | nil =>
      rw [untagged_nil]
      exact .refl []
  | literal text rest later =>
      rw [untagged_cons, Node.untagged]
      exact .cons (.refl _) later
  | argument name rest later =>
      rw [untagged_cons, Node.untagged]
      exact .cons (.refl _) later
  | formatted category name style rest later =>
      rw [untagged_cons, Node.untagged]
      exact .cons (.refl _) later
  | plural name rule offset branches rest inside later =>
      rw [untagged_cons, Node.untagged, untaggedPluralBranches_eq_map]
      exact .cons (.plural name rule offset inside) later
  | select name branches rest inside later =>
      rw [untagged_cons, Node.untagged, untaggedSelectBranches_eq_map]
      exact .cons (.select name inside) later
  | pound rest later =>
      rw [untagged_cons, Node.untagged]
      exact .cons (.refl _) later
  | tag name children rest inside later =>
      rw [untagged_cons, Node.untagged]
      exact .cons (.contents handOn name inside) later

end Message

/-- Tags that hand on the parts of their contents leave no trace.  A message comes to
the same parts, or the same failure, with the contents of its tags in the place of the
tags, at any depth; and then there are no tags left in it. -/
theorem ignored_tags_leave_no_trace
    {environment : Environment}
    (handOn : environment.tags.HandOn)
    (message : Message) :
    (∀ pound,
      (message.untagged.partsIn environment pound).outcome =
        (message.partsIn environment pound).outcome) ∧
    message.untagged.TagFree :=
  ⟨(Message.gathersUntagged handOn message).outcome_partsIn, message.untagged_tagFree⟩

/-- Tags in tags and in the branch of a select, next to text and to a rich value. -/
def linkedTree : Message :=
  [.literal "see ", .tag "a" [.literal "the ", .tag "b" [.literal "docs", .argument "icon"]],
    .select "kind" [(otherKey, [.tag "i" [.literal "!"], .literal "!"])]]

/-- Tags are left away, and the effect of one of them changes nothing. -/
def linkedEnvironment : Environment where
  provider := .locales
  locale := { base := { language := "en" } }
  sheet := {}
  styles := {}
  tags := { fallback := .ignore, effects := [("b", id)] }
  pattern := ""
  values := [("icon", .rich "icon"), ("kind", .text "page")]

/-- Nested tags, one with an effect that changes nothing and one in a branch, leave no
trace in `linkedTree`. -/
theorem ignored_tags_leave_no_trace_linkedTree :
    linkedTree.untagged =
        [.literal "see ", .literal "the ", .literal "docs", .argument "icon",
          .select "kind" [(otherKey, [.literal "!", .literal "!"])]] ∧
      (linkedTree.untagged.partsIn linkedEnvironment none).outcome =
        (linkedTree.partsIn linkedEnvironment none).outcome ∧
      (linkedTree.partsIn linkedEnvironment none).outcome =
        .ok [.literal "see the docs", .argument (.rich "icon"), .literal "!!"] := by
  have handOn : linkedEnvironment.tags.HandOn := by
    refine ⟨rfl, fun entry member parts => ?_⟩
    cases List.mem_singleton.mp member
    rfl
  exact ⟨by simp [linkedTree, Node.untagged, untaggedSelectBranches],
    (ignored_tags_leave_no_trace handOn linkedTree).1 none, rfl⟩

end IcuMessage
