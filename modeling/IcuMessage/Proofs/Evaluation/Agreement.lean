import IcuMessage.Evaluation.Evaluator
import IcuMessage.Proofs.Message.Induction
import IcuMessage.Proofs.Message.Mentions

/-!
# Environments that agree

A node asks its environment for a few things only.  Two environments with the same
provider, locale and rules for tags that give the same answers to all nodes of a
message cannot be told apart by it: the message denotes the same evaluator in both
(`Message.evaluate_eq_of_agree`).
-/

namespace IcuMessage

/-- Two environments answer alike what the node itself asks for. -/
def Environment.AgreeOn (environment other : Environment) : Node → Prop
  | .argument name =>
      environment.value name = other.value name ∧
        ∀ value gathered,
          environment.gatherArgument value gathered = other.gatherArgument value gathered
  | .formatted category name style =>
      environment.formattedText category name style = other.formattedText category name style
  | .plural name _ _ _ => environment.number name = other.number name
  | .select name _ => environment.branchKey name = other.branchKey name
  | .literal _ | .pound | .tag _ _ => True

/-- Two environments have the same provider, locale and rules for tags. -/
structure Environment.SameService (environment other : Environment) : Prop where
  provider : environment.provider = other.provider
  locale : environment.locale = other.locale
  tags : environment.tags = other.tags

namespace Message

variable {environment other : Environment}

/-- Two environments answer all the nodes of a message alike, at every depth. -/
def AgreedOn (message : Message) (environment other : Environment) : Prop :=
  ∀ node, message.Contains node → environment.AgreeOn other node

/-- Environments that evaluate a first node and the others alike evaluate the message
alike. -/
theorem evaluate_cons_eq
    {node : Node}
    {rest : Message}
    (agree : AgreedOn (node :: rest) environment other)
    (first : node.evaluate environment = node.evaluate other)
    (later : rest.AgreedOn environment other →
      evaluate environment rest = evaluate other rest) :
    evaluate environment (node :: rest) = evaluate other (node :: rest) := by
  have behind : evaluate environment rest = evaluate other rest :=
    later fun node contained => agree node (.behind contained)
  rw [evaluate, evaluate, first, behind]

/-- Environments that evaluate the branches of a plural alike have the same evaluators for
them. -/
theorem pluralEvaluators_congr
    {branches : List (PluralKey × Message)}
    (inside : ∀ branch ∈ branches, evaluate environment branch.2 = evaluate other branch.2) :
    pluralEvaluators environment branches = pluralEvaluators other branches := by
  rw [pluralEvaluators_eq_map, pluralEvaluators_eq_map]
  refine List.map_congr_left fun branch member => ?_
  rw [inside branch member]

theorem selectEvaluators_congr
    {branches : List (String × Message)}
    (inside : ∀ branch ∈ branches, evaluate environment branch.2 = evaluate other branch.2) :
    selectEvaluators environment branches = selectEvaluators other branches := by
  rw [selectEvaluators_eq_map, selectEvaluators_eq_map]
  refine List.map_congr_left fun branch member => ?_
  rw [inside branch member]

/-- A message denotes the same in environments that answer all its nodes alike. -/
theorem evaluate_eq_of_agree
    (service : environment.SameService other)
    {message : Message}
    (agree : message.AgreedOn environment other) :
    evaluate environment message = evaluate other message := by
  induction message using Message.induct with
  | nil => rfl
  | literal text rest later => exact evaluate_cons_eq agree rfl later
  | argument name rest later =>
      refine evaluate_cons_eq agree ?_ later
      obtain ⟨value, argument⟩ := agree _ .first
      funext pound gathered
      rw [Node.evaluate, Node.evaluate, value]
      simp only [argument]
  | formatted category name style rest later =>
      refine evaluate_cons_eq agree ?_ later
      have text : environment.formattedText category name style =
          other.formattedText category name style :=
        agree _ .first
      funext pound gathered
      rw [Node.evaluate, Node.evaluate, text]
  | plural name rule offset branches rest inside later =>
      refine evaluate_cons_eq agree ?_ later
      have number : environment.number name = other.number name := agree _ .first
      have bodies : pluralEvaluators environment branches = pluralEvaluators other branches :=
        pluralEvaluators_congr fun branch member =>
          inside branch member fun node contained => agree node (.inPlural member contained)
      funext pound gathered
      rw [Node.evaluate, Node.evaluate, number, bodies]
      simp only [Environment.selectPlural, service.provider, service.locale]
  | select name branches rest inside later =>
      refine evaluate_cons_eq agree ?_ later
      have key : environment.branchKey name = other.branchKey name := agree _ .first
      have bodies : selectEvaluators environment branches = selectEvaluators other branches :=
        selectEvaluators_congr fun branch member =>
          inside branch member fun node contained => agree node (.inSelect member contained)
      funext pound gathered
      rw [Node.evaluate, Node.evaluate, key, bodies]
  | pound rest later =>
      refine evaluate_cons_eq agree ?_ later
      funext pound gathered
      rw [Node.evaluate, Node.evaluate]
      cases pound with
      | none => rfl
      | some number => simp only [Environment.poundText, service.provider, service.locale]
  | tag name children rest inside later =>
      refine evaluate_cons_eq agree ?_ later
      have contents := inside fun node contained => agree node (.inTag contained)
      funext pound gathered
      rw [Node.evaluate, Node.evaluate, contents, service.tags]

end Message

end IcuMessage
