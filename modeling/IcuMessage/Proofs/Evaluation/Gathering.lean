import IcuMessage.Evaluation.Evaluator
import IcuMessage.Proofs.Plural.Selection

/-!
# Gathering the parts of a message

`Message.gatherIn` is the outcome of an evaluation without the events that it
reports.  This module supplies one equation for each kind of node, so that no
later proof has to open the evaluator.  In these equations a plural and a
select choose among messages; the evaluator chooses among what the messages
denote.
-/

namespace IcuMessage

/-- Gather the parts of a message behind those gathered so far. -/
def Message.gatherIn (message : Message) (environment : Environment)
    (pound : Option Float) (gathered : Gathered) : Except Failure Gathered :=
  (Message.evaluate environment message pound gathered).outcome

/-- A select takes the branch of the key, or else the branch `other`. -/
theorem Environment.outcome_selectBranch {β : Type} (name : String)
    (branches : List (String × β)) (key : String) :
    (Environment.selectBranch name branches key).outcome =
      match (branches.lookup key).or (branches.lookup otherKey) with
      | some branch => .ok branch
      | none => .error (.missingOther name) := by
  rw [Environment.selectBranch]
  cases (branches.lookup key).or (branches.lookup otherKey) <;> rfl

/-- The branch that a number takes is one of the branches of the plural. -/
theorem Environment.mem_of_selectPlural {β : Type} {environment : Environment} {name : String}
    {branches : List (PluralKey × β)} {number : Float} {rule : PluralRule} {branch : β}
    (taken : (environment.selectPlural name branches number rule).outcome = .ok branch) :
    ∃ key, (key, branch) ∈ branches :=
  ((Provider.outcome_selectPlural_iff _ _ _ _ _ _ _).mp taken).mem

theorem Environment.mem_of_selectBranch {β : Type} {name : String}
    {branches : List (String × β)} {key : String} {branch : β}
    (taken : (Environment.selectBranch name branches key).outcome = .ok branch) :
    ∃ key, (key, branch) ∈ branches := by
  rw [outcome_selectBranch] at taken
  cases found : branches.lookup key with
  | some own =>
      rw [found] at taken
      cases taken
      exact ⟨key, Table.mem_of_lookup found⟩
  | none =>
      rw [found] at taken
      cases other : branches.lookup otherKey with
      | some fallback =>
          rw [other] at taken
          cases taken
          exact ⟨otherKey, Table.mem_of_lookup other⟩
      | none =>
          rw [other] at taken
          cases taken

/-- Which branch a key takes does not depend on what the branches hold. -/
theorem Environment.outcome_selectBranch_map {β γ : Type} (change : β → γ) (name : String)
    (branches : List (String × β)) (key : String) :
    (Environment.selectBranch name
        (branches.map fun branch => (branch.1, change branch.2)) key).outcome =
      (Environment.selectBranch name branches key).outcome.map change := by
  rw [outcome_selectBranch, outcome_selectBranch, Table.lookup_map, Table.lookup_map]
  cases branches.lookup key <;> cases branches.lookup otherKey <;> rfl

namespace Message

variable (environment : Environment) (pound : Option Float) (gathered : Gathered)
  (rest : Message)

@[simp]
theorem gatherIn_nil : gatherIn [] environment pound gathered = .ok gathered := rfl

/-- What a node denotes comes before what the rest denotes. -/
theorem gatherIn_eq_bind (node : Node) :
    gatherIn (node :: rest) environment pound gathered =
      ((node.evaluate environment pound gathered).outcome >>= fun further =>
        rest.gatherIn environment pound further) :=
  Traced.outcome_bind _ _

@[simp]
theorem gatherIn_literal (text : String) :
    gatherIn (.literal text :: rest) environment pound gathered =
      rest.gatherIn environment pound (gathered.addText text) := rfl

@[simp]
theorem gatherIn_argument (name : String) :
    gatherIn (.argument name :: rest) environment pound gathered =
      (do
        let value ← environment.value name
        let further ← environment.gatherArgument value gathered
        rest.gatherIn environment pound further) := by
  have evaluated :
      (Node.evaluate environment (.argument name) pound gathered).outcome =
        (environment.value name >>= fun value => environment.gatherArgument value gathered) :=
    Traced.outcome_bind _ _
  rw [gatherIn_eq_bind, evaluated, bind_assoc]

@[simp]
theorem gatherIn_formatted (category : Category) (name : String) (style : Option Style) :
    gatherIn (.formatted category name style :: rest) environment pound gathered =
      (do
        let text ← environment.formattedText category name style
        rest.gatherIn environment pound (gathered.addText text)) := by
  have evaluated :
      (Node.evaluate environment (.formatted category name style) pound gathered).outcome =
        (environment.formattedText category name style >>= fun text =>
          .ok (gathered.addText text)) :=
    Traced.outcome_bind _ _
  rw [gatherIn_eq_bind, evaluated, bind_assoc]
  rfl

@[simp]
theorem gatherIn_plural (name : String) (rule : PluralRule) (offset : Int64)
    (branches : List (PluralKey × Message)) :
    gatherIn (.plural name rule offset branches :: rest) environment pound gathered =
      (do
        let number ← environment.number name
        let adjusted := number - floatOfInt64 offset
        let branch ← (environment.selectPlural name branches adjusted rule).outcome
        let further ← branch.gatherIn environment (some adjusted) gathered
        rest.gatherIn environment pound further) := by
  have selected (adjusted : Float) :
      (environment.selectPlural name (pluralEvaluators environment branches) adjusted
          rule).outcome =
        (environment.selectPlural name branches adjusted rule).outcome.map
          (Message.evaluate environment) := by
    rw [pluralEvaluators_eq_map]
    exact Provider.outcome_selectPlural_map _ _ _ _ _ _ (Message.evaluate environment)
  rw [gatherIn_eq_bind]
  show (liftM (environment.number name) >>= fun number => _ : Traced Gathered).outcome >>= _ = _
  simp only [Traced.outcome_bind, Traced.outcome_liftM, selected]
  cases environment.number name with
  | error error => rfl
  | ok number =>
      simp only [ok_bind]
      cases (environment.selectPlural name branches (number - floatOfInt64 offset) rule).outcome
        <;> rfl

@[simp]
theorem gatherIn_select (name : String) (branches : List (String × Message)) :
    gatherIn (.select name branches :: rest) environment pound gathered =
      (do
        let key ← environment.branchKey name
        let branch ← (Environment.selectBranch name branches key).outcome
        let further ← branch.gatherIn environment pound gathered
        rest.gatherIn environment pound further) := by
  have selected (key : String) :
      (Environment.selectBranch name (selectEvaluators environment branches) key).outcome =
        (Environment.selectBranch name branches key).outcome.map
          (Message.evaluate environment) := by
    rw [selectEvaluators_eq_map]
    exact Environment.outcome_selectBranch_map (Message.evaluate environment) _ _ _
  rw [gatherIn_eq_bind]
  show (liftM (environment.branchKey name) >>= fun key => _ : Traced Gathered).outcome >>= _ = _
  simp only [Traced.outcome_bind, Traced.outcome_liftM, selected]
  cases environment.branchKey name with
  | error error => rfl
  | ok key =>
      simp only [ok_bind]
      cases (Environment.selectBranch name branches key).outcome <;> rfl

@[simp]
theorem gatherIn_pound :
    gatherIn (.pound :: rest) environment pound gathered =
      (do
        let text ← environment.poundText pound
        rest.gatherIn environment pound (gathered.addText text)) := by
  have evaluated :
      (Node.evaluate environment .pound pound gathered).outcome =
        (environment.poundText pound >>= fun text => .ok (gathered.addText text)) :=
    Traced.outcome_bind _ _
  rw [gatherIn_eq_bind, evaluated, bind_assoc]
  rfl

@[simp]
theorem gatherIn_tag (name : String) (children : Message) :
    gatherIn (.tag name children :: rest) environment pound gathered =
      (do
        let inner ← children.gatherIn environment pound Gathered.empty
        rest.gatherIn environment pound
          (environment.tags.gather name inner.toList gathered)) := by
  have evaluated :
      (Node.evaluate environment (.tag name children) pound gathered).outcome =
        (children.gatherIn environment pound Gathered.empty >>= fun inner =>
          .ok (environment.tags.gather name inner.toList gathered)) :=
    Traced.outcome_bind _ _
  rw [gatherIn_eq_bind, evaluated, bind_assoc]
  rfl

/-- Of a message, the first node is gathered before the others. -/
theorem gatherIn_cons (node : Node) :
    gatherIn (node :: rest) environment pound gathered =
      (gatherIn [node] environment pound gathered >>= fun further =>
        rest.gatherIn environment pound further) := by
  rw [gatherIn_eq_bind, gatherIn_eq_bind, bind_assoc]
  rfl

/-- The parts of a message are what it gathers when nothing was gathered before. -/
theorem outcome_partsIn (message : Message) :
    (message.partsIn environment pound).outcome =
      (message.gatherIn environment pound Gathered.empty).map Gathered.toList := by
  simp only [partsIn, gatherIn, Traced.outcome_bind]
  cases (Message.evaluate environment message pound Gathered.empty).outcome <;> rfl

end Message

end IcuMessage
