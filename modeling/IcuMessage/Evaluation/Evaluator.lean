import IcuMessage.Evaluation.Environment

/-!
# Evaluation

A message denotes an evaluator: given the number of the nearest plural around,
it adds the parts of the message to those gathered so far, or fails.  A plural
and a select evaluate only the branch that they take.  The contents of a tag
are gathered on their own before the tag is handled.
-/

namespace IcuMessage

/-- What a message denotes in an environment.  The first argument is the number
that a number sign stands for. -/
abbrev Evaluator := Option Float → Gathered → Traced Gathered

mutual

/-- What a node denotes. -/
def Node.evaluate (environment : Environment) : Node → Evaluator
  | .literal text => fun _ gathered => pure (gathered.addText text)
  | .argument name => fun _ gathered => do
      let value ← environment.value name
      environment.gatherArgument value gathered
  | .formatted category name style => fun _ gathered => do
      let text ← environment.formattedText category name style
      pure (gathered.addText text)
  | .plural name rule offset branches => fun _ gathered => do
      let number ← environment.number name
      let adjusted := number - floatOfInt64 offset
      let branch ← environment.selectPlural name
        (pluralEvaluators environment branches) adjusted rule
      branch (some adjusted) gathered
  | .select name branches => fun pound gathered => do
      let key ← environment.branchKey name
      let branch ← Environment.selectBranch name (selectEvaluators environment branches) key
      branch pound gathered
  | .pound => fun pound gathered => do
      let text ← environment.poundText pound
      pure (gathered.addText text)
  | .tag name children => fun pound gathered => do
      let inner ← Message.evaluate environment children pound Gathered.empty
      pure (environment.tags.gather name inner.toList gathered)

/-- What a message denotes: its nodes from left to right. -/
def Message.evaluate (environment : Environment) : Message → Evaluator
  | [] => fun _ gathered => pure gathered
  | node :: rest => fun pound gathered => do
      let further ← node.evaluate environment pound gathered
      Message.evaluate environment rest pound further

/-- What the branches of a plural denote. -/
def pluralEvaluators (environment : Environment) :
    List (PluralKey × List Node) → List (PluralKey × Evaluator)
  | [] => []
  | (key, body) :: rest =>
      (key, Message.evaluate environment body) :: pluralEvaluators environment rest

/-- What the branches of a select denote. -/
def selectEvaluators (environment : Environment) :
    List (String × List Node) → List (String × Evaluator)
  | [] => []
  | (key, body) :: rest =>
      (key, Message.evaluate environment body) :: selectEvaluators environment rest

end

/-- The parts of a message in an environment, inside a plural or outside. -/
def Message.partsIn (message : Message) (environment : Environment) (pound : Option Float) :
    Traced (List Part) := do
  let gathered ← Message.evaluate environment message pound Gathered.empty
  pure gathered.toList

/-- The parts of a message in an environment. -/
def Message.parts (message : Message) (environment : Environment) : Traced (List Part) :=
  message.partsIn environment none

theorem pluralEvaluators_eq_map (environment : Environment)
    (branches : List (PluralKey × List Node)) :
    pluralEvaluators environment branches =
      branches.map fun branch => (branch.1, Message.evaluate environment branch.2) := by
  induction branches with
  | nil => rw [pluralEvaluators, List.map_nil]
  | cons branch rest ih => rw [pluralEvaluators, ih, List.map_cons]

theorem selectEvaluators_eq_map (environment : Environment)
    (branches : List (String × List Node)) :
    selectEvaluators environment branches =
      branches.map fun branch => (branch.1, Message.evaluate environment branch.2) := by
  induction branches with
  | nil => rw [selectEvaluators, List.map_nil]
  | cons branch rest ih => rw [selectEvaluators, ih, List.map_cons]

end IcuMessage
