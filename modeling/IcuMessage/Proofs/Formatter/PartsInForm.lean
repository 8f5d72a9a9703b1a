import IcuMessage.Formatter.Basic
import IcuMessage.Proofs.Evaluation.HandedParts
import IcuMessage.Proofs.Evaluation.RichValues

/-!
# The form of formatted parts

The parts of a formatted message are in normal form whatever the effects of its tags
return, and so are the parts that the effects are given: effects that differ on
other lists alone cannot be told apart.  Without effects, the rich values among the
parts are those of the placeholders that the evaluation comes to, in their order.

The main statement is `parts_joined_and_rich_values_kept`.
-/

namespace IcuMessage

/-- Two sets of rules make the same of all parts in normal form. -/
structure TagRules.SameOnJoined (rules other : TagRules) : Prop where
  fallback : rules.fallback = other.fallback
  effects : ∀ name parts, Joined parts →
    (rules.effects.lookup name).map (fun effect => effect parts) =
      (other.effects.lookup name).map (fun effect => effect parts)

/-- Rules that make the same of joined parts make the same of the children of a tag. -/
theorem TagRules.SameOnJoined.parts
    {rules other : TagRules}
    (same : rules.SameOnJoined other)
    (name : String)
    {children : List Part}
    (joined : Joined children) :
    rules.parts name children = other.parts name children := by
  have effects := same.effects name children joined
  rw [TagRules.parts, TagRules.parts, same.fallback]
  cases here : rules.effects.lookup name with
  | none =>
      rw [here, Option.map_none, eq_comm, Option.map_eq_none_iff] at effects
      rw [effects]
  | some effect =>
      rw [here, Option.map_some, eq_comm, Option.map_eq_some_iff] at effects
      rcases effects with
        ⟨counterpart, there, result⟩
      rw [there]
      exact result.symm

namespace Formatter

/-- Formatting hands some parts over as the contents of a tag. -/
def Hands (formatter : Formatter) (values : Bindings) (tag : String)
    (handed : List Part) : Prop :=
  formatter.message.Hands (formatter.environment values) tag handed none

/-- Formatting comes to the plain placeholders with some names, in this order. -/
def Visits (formatter : Formatter) (values : Bindings) (names : List String) : Prop :=
  formatter.message.Visits (formatter.environment values) names

variable {formatter : Formatter} {values : Bindings}

/-- Only joined parts are handed to the effects of tags. -/
theorem outcome_formatToParts_withTags
    {rules : TagRules}
    (same : rules.SameOnJoined formatter.tags) :
    ({ formatter with tags := rules }.formatToParts values).outcome =
      (formatter.formatToParts values).outcome := by
  have alike : formatter.message.HandsAlike (formatter.environment values) rules none :=
    fun tag handed hands => same.parts tag hands.joined
  exact Message.outcome_partsIn_withTags alike

/-- Where tags have no effects, the rich values of the parts are those of the placeholders
visited. -/
theorem exists_visits
    (plain : formatter.tags.effects = [])
    {parts : List Part}
    (succeeds : (formatter.formatToParts values).outcome = .ok parts) :
    ∃ names, formatter.Visits values names ∧
      argumentsOf parts = names.filterMap values.richValue? := by
  rw [formatToParts, Message.parts, Message.outcome_partsIn] at succeeds
  rcases map_eq_ok_iff.mp succeeds with
    ⟨gathered, gathers, rfl⟩
  rcases Message.addsRichValues plain _ _ _ _ gathers with
    ⟨names, visits, same⟩
  exact ⟨names, visits, same⟩

end Formatter

/-- Whatever the tags do, the parts of a message are in normal form, and so is every
list that is handed to an effect; nothing else of the effects matters.  Without
effects, the values among the parts are the rich values of the placeholders that the
evaluation comes to, each as it was bound, in the order of the evaluation. -/
theorem parts_joined_and_rich_values_kept (formatter : Formatter) (values : Bindings) :
    (∀ parts, (formatter.formatToParts values).outcome = .ok parts → Joined parts) ∧
    (∀ tag handed, formatter.Hands values tag handed → Joined handed) ∧
    (∀ rules : TagRules, rules.SameOnJoined formatter.tags →
      ({ formatter with tags := rules }.formatToParts values).outcome =
        (formatter.formatToParts values).outcome) ∧
    (formatter.tags.effects = [] →
      ∀ parts, (formatter.formatToParts values).outcome = .ok parts →
        ∃ names, formatter.Visits values names ∧
          (∀ others, formatter.Visits values others → others = names) ∧
            argumentsOf parts = names.filterMap values.richValue?) := by
  refine ⟨?_, ?_, ?_, ?_⟩
  · exact fun parts succeeds => Message.joined_of_partsIn succeeds
  · exact fun tag handed hands => hands.joined
  · exact fun rules same => Formatter.outcome_formatToParts_withTags same
  · intro plain parts succeeds
    rcases Formatter.exists_visits plain succeeds with
      ⟨names, visits, same⟩
    exact ⟨names, visits, fun others again => again.unique visits, same⟩

/-- A tag whose contents come twice behind an empty literal, and one that is dropped. -/
def twiceOrDropped : TagRules where
  effects := [("drop", fun _ => []), ("twice", fun parts => .literal "" :: parts ++ parts)]

/-- Tags with effects inside one another, around one rich value. -/
def twiceFormatter (rules : TagRules) : Formatter where
  pattern := ""
  message :=
    [.literal "a", .tag "twice" [.argument "x", .tag "drop" [.literal "b"], .literal "b"],
      .literal "c"]
  locale := { base := { language := "en" } }
  provider := .locales
  sheet := {}
  styles := {}
  tags := rules

/-- The literals that the effects leave empty or side by side are gone. -/
theorem parts_joined_and_rich_values_kept_twice :
    Joined [.literal "a", .argument (.rich "h"), .literal "b", .argument (.rich "h"),
      .literal "bc"] ∧
    Joined [.argument (.rich "h"), .literal "b"] ∧
    ∃ names, (twiceFormatter {}).Visits [("x", .rich "h")] names ∧
      [Value.rich "h"] = names.filterMap (Bindings.richValue? [("x", .rich "h")]) := by
  have withEffects :=
    parts_joined_and_rich_values_kept (twiceFormatter twiceOrDropped) [("x", .rich "h")]
  have plain := parts_joined_and_rich_values_kept (twiceFormatter {}) [("x", .rich "h")]
  refine ⟨withEffects.1 _ rfl, ?_, ?_⟩
  · refine withEffects.2.1 "twice" _ (.behind rfl (.tag rfl))
  · rcases plain.2.2.2 rfl _ rfl with
      ⟨names, visits, _, same⟩
    exact ⟨names, visits, same⟩

end IcuMessage
