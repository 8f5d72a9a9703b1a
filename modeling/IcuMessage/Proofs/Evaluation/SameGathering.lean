import IcuMessage.Proofs.Evaluation.Meaning

/-!
# Messages that are gathered alike

Two messages are gathered alike in an environment if neither the parts gathered before
nor the plural around tells them apart.  A message may be exchanged for one that is
gathered alike wherever it stands: in a longer message, in the branches of a plural or
select, and in a tag.
-/

namespace IcuMessage.Message

/-- Two messages come to the same, behind whatever was gathered before. -/
def GathersLike (environment : Environment) (first second : Message) : Prop :=
  ∀ pound gathered,
    first.gatherIn environment pound gathered = second.gatherIn environment pound gathered

namespace GathersLike

variable {environment : Environment}

theorem refl (message : Message) : GathersLike environment message message :=
  fun _ _ => rfl

theorem trans
    {first second third : Message}
    (begins : GathersLike environment first second)
    (ends : GathersLike environment second third) :
    GathersLike environment first third :=
  fun pound gathered => (begins pound gathered).trans (ends pound gathered)

/-- What comes to the same may be put behind what comes to the same. -/
theorem append
    {first second front back : Message}
    (fronts : GathersLike environment first front)
    (backs : GathersLike environment second back) :
    GathersLike environment (first ++ second) (front ++ back) := by
  intro pound gathered
  rw [gatherIn_append, gatherIn_append, fronts]
  exact bind_congr fun further => backs pound further

/-- A node may be exchanged for nodes that come to the same. -/
theorem cons
    {node : Node}
    {nodes more rest : Message}
    (first : GathersLike environment nodes [node])
    (later : GathersLike environment more rest) :
    GathersLike environment (nodes ++ more) (node :: rest) :=
  first.append later

theorem plural
    {change : Message → Message}
    {branches : List (PluralKey × Message)}
    (name : String)
    (rule : PluralRule)
    (offset : Int64)
    (inside : ∀ branch ∈ branches, GathersLike environment (change branch.2) branch.2) :
    GathersLike environment
      [.plural name rule offset (branches.map fun branch => (branch.1, change branch.2))]
      [.plural name rule offset branches] := by
  intro pound gathered
  rw [gatherIn_plural, gatherIn_plural]
  refine bind_congr fun number => ?_
  simp only [Environment.selectPlural, Provider.outcome_selectPlural_map]
  cases taken : (environment.provider.selectPlural environment.locale name branches
    (number - floatOfInt64 offset) rule).outcome with
  | error error => rfl
  | ok branch =>
      rcases Environment.mem_of_selectPlural taken with
        ⟨key, member⟩
      have same : GathersLike environment (change branch) branch := inside _ member
      simp only [Except.map, ok_bind, same (some (number - floatOfInt64 offset))]

theorem select
    {change : Message → Message}
    {branches : List (String × Message)}
    (name : String)
    (inside : ∀ branch ∈ branches, GathersLike environment (change branch.2) branch.2) :
    GathersLike environment
      [.select name (branches.map fun branch => (branch.1, change branch.2))]
      [.select name branches] := by
  intro pound gathered
  rw [gatherIn_select, gatherIn_select]
  refine bind_congr fun key => ?_
  simp only [Environment.outcome_selectBranch_map]
  cases taken : (Environment.selectBranch name branches key).outcome with
  | error error => rfl
  | ok branch =>
      rcases Environment.mem_of_selectBranch taken with
        ⟨key, member⟩
      have same : GathersLike environment (change branch) branch := inside _ member
      simp only [Except.map, ok_bind, same pound]

/-- What comes to the same comes to the same inside of a tag. -/
theorem tag
    {first second : Message}
    (name : String)
    (inside : GathersLike environment first second) :
    GathersLike environment [.tag name first] [.tag name second] := by
  intro pound gathered
  rw [gatherIn_tag, gatherIn_tag, inside]

/-- Messages that are gathered alike have the same parts. -/
theorem outcome_partsIn
    {first second : Message}
    (alike : GathersLike environment first second)
    (pound : Option Float) :
    (first.partsIn environment pound).outcome = (second.partsIn environment pound).outcome := by
  rw [Message.outcome_partsIn, Message.outcome_partsIn, alike]

end GathersLike

end IcuMessage.Message
