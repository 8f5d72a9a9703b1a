import IcuMessage.Proofs.Evaluation.Meaning

/-!
# The parts that are handed to the rules for tags

While a message is evaluated, the rules for tags are handed the parts inside of
every tag that is reached.  `Message.Hands` says which parts these are: those of a
tag in the branches that are taken, with nothing before it that fails.

What is handed over is in normal form, whatever the rules make of it
(`Message.Hands.joined`), and it is all that the evaluation asks the rules for
(`Message.outcome_partsIn_withTags`).
-/

namespace IcuMessage

/-- The parts of a message are in normal form. -/
theorem Message.joined_of_partsIn
    {environment : Environment}
    {message : Message}
    {pound : Option Float}
    {parts : List Part}
    (succeeds : (message.partsIn environment pound).outcome = .ok parts) :
    Joined parts := by
  have meaning := (outcome_partsIn_iff environment pound message _).mp succeeds
  rw [← meaning.coalesced]
  exact joined_coalesce parts

/-- The evaluation of a message hands some parts over as the contents of a tag. -/
inductive Message.Hands (environment : Environment) (tag : String) (handed : List Part) :
    Option Float → Message → Prop where
  | tag {pound : Option Float} {children rest : Message}
      (inside : (children.partsIn environment pound).outcome = .ok handed) :
      Hands environment tag handed pound (.tag tag children :: rest)
  | inTag {pound : Option Float} {name : String} {children rest : Message}
      (inside : Hands environment tag handed pound children) :
      Hands environment tag handed pound (.tag name children :: rest)
  | inPlural {pound : Option Float} {name : String} {rule : PluralRule} {offset : Int64}
      {branches : List (PluralKey × Message)} {number : Float} {branch rest : Message}
      (counts : environment.number name = .ok number)
      (taken : (environment.selectPlural name branches (number - floatOfInt64 offset)
        rule).outcome = .ok branch)
      (inside : Hands environment tag handed (some (number - floatOfInt64 offset)) branch) :
      Hands environment tag handed pound (.plural name rule offset branches :: rest)
  | inSelect {pound : Option Float} {name key : String} {branches : List (String × Message)}
      {branch rest : Message}
      (asks : environment.branchKey name = .ok key)
      (taken : (Environment.selectBranch name branches key).outcome = .ok branch)
      (inside : Hands environment tag handed pound branch) :
      Hands environment tag handed pound (.select name branches :: rest)
  | behind {pound : Option Float} {first : Node} {rest : Message} {parts : List Part}
      (before : (Message.partsIn [first] environment pound).outcome = .ok parts)
      (later : Hands environment tag handed pound rest) :
      Hands environment tag handed pound (first :: rest)

namespace Message.Hands

variable {environment : Environment} {tag : String} {handed : List Part}
  {pound : Option Float} {message : Message}

/-- Whatever is handed over is in normal form. -/
theorem joined
    (hands : message.Hands environment tag handed pound) :
    Joined handed := by
  induction hands with
  | tag inside => exact joined_of_partsIn inside
  | inTag _ inside => exact inside
  | inPlural _ _ _ inside => exact inside
  | inSelect _ _ _ inside => exact inside
  | behind _ _ later => exact later

/-- What a first node hands over is handed over by the message. -/
theorem of_first
    {node : Node}
    (hands : Hands environment tag handed pound [node])
    (rest : Message) :
    Hands environment tag handed pound (node :: rest) := by
  cases hands with
  | tag inside => exact .tag inside
  | inTag inside => exact .inTag inside
  | inPlural counts taken inside => exact .inPlural counts taken inside
  | inSelect asks taken inside => exact .inSelect asks taken inside
  | behind _ later => cases later

end Message.Hands

/-- Some rules make the same of whatever the evaluation of a message hands over. -/
def Message.HandsAlike (message : Message) (environment : Environment) (rules : TagRules)
    (pound : Option Float) : Prop :=
  ∀ tag handed, message.Hands environment tag handed pound →
    rules.parts tag handed = environment.tags.parts tag handed

/-- A message is gathered alike with rules that make the same of what is handed over. -/
def Message.GathersAlike (message : Message) (environment : Environment)
    (rules : TagRules) : Prop :=
  ∀ pound, message.HandsAlike environment rules pound → ∀ gathered,
    message.gatherIn { environment with tags := rules } pound gathered =
      message.gatherIn environment pound gathered

namespace Message.GathersAlike

variable {environment : Environment} {rules : TagRules}

theorem cons
    {node : Node}
    {rest : Message}
    (first : GathersAlike [node] environment rules)
    (later : GathersAlike rest environment rules) :
    GathersAlike (node :: rest) environment rules := by
  intro pound alike gathered
  rw [gatherIn_cons, gatherIn_cons environment,
    first pound fun tag handed hands => alike tag handed (hands.of_first rest)]
  refine bind_congr_of_ok fun further succeeds => ?_
  refine later pound (fun tag handed hands => alike tag handed ?_) further
  rw [gatherIn_eq_map_addAll] at succeeds
  rcases map_eq_ok_iff.mp succeeds with
    ⟨parts, before, _⟩
  exact .behind before hands

theorem plural
    {branches : List (PluralKey × Message)}
    (name : String)
    (rule : PluralRule)
    (offset : Int64)
    (inside : ∀ branch ∈ branches, GathersAlike branch.2 environment rules) :
    GathersAlike [.plural name rule offset branches] environment rules := by
  intro pound alike gathered
  rw [gatherIn_plural, gatherIn_plural]
  refine bind_congr_of_ok fun number counts => ?_
  refine bind_congr_of_ok fun branch taken => ?_
  rcases Environment.mem_of_selectPlural taken with
    ⟨key, member⟩
  rw [inside _ member _ fun tag handed hands => alike tag handed (.inPlural counts taken hands)]
  rfl

theorem select
    {branches : List (String × Message)}
    (name : String)
    (inside : ∀ branch ∈ branches, GathersAlike branch.2 environment rules) :
    GathersAlike [.select name branches] environment rules := by
  intro pound alike gathered
  rw [gatherIn_select, gatherIn_select]
  refine bind_congr_of_ok fun key asks => ?_
  refine bind_congr_of_ok fun branch taken => ?_
  rcases Environment.mem_of_selectBranch taken with
    ⟨key, member⟩
  rw [inside _ member _ fun tag handed hands => alike tag handed (.inSelect asks taken hands)]
  rfl

/-- A tag is gathered alike if its children are, because they are what is handed over. -/
theorem tag
    {children : Message}
    (name : String)
    (inside : GathersAlike children environment rules) :
    GathersAlike [.tag name children] environment rules := by
  intro pound alike gathered
  rw [gatherIn_tag, gatherIn_tag, inside _ fun tag handed hands => alike tag handed (.inTag hands)]
  refine bind_congr_of_ok fun inner succeeds => ?_
  have handed : (children.partsIn environment pound).outcome = .ok inner.toList := by
    rw [outcome_partsIn, succeeds]
    rfl
  have same := alike name inner.toList (.tag handed)
  rw [TagRules.gather_eq_addAll, TagRules.gather_eq_addAll, same]
  rfl

end Message.GathersAlike

/-- The rules for tags are asked for nothing but what is handed over. -/
theorem Message.gathersAlike
    (environment : Environment)
    (rules : TagRules)
    (message : Message) :
    message.GathersAlike environment rules := by
  induction message using Message.induct with
  | nil => exact fun _ _ _ => rfl
  | literal text rest later => exact .cons (fun _ _ _ => rfl) later
  | argument name rest later => exact .cons (fun _ _ _ => by rfl) later
  | formatted category name style rest later => exact .cons (fun _ _ _ => by rfl) later
  | plural name rule offset branches rest inside later =>
      exact .cons (.plural name rule offset inside) later
  | select name branches rest inside later => exact .cons (.select name inside) later
  | pound rest later => exact .cons (fun _ _ _ => rfl) later
  | tag name children rest inside later => exact .cons (.tag name inside) later

/-- Rules that make the same of what is handed over make the same parts. -/
theorem Message.outcome_partsIn_withTags
    {environment : Environment}
    {rules : TagRules}
    {message : Message}
    {pound : Option Float}
    (alike : message.HandsAlike environment rules pound) :
    (message.partsIn { environment with tags := rules } pound).outcome =
      (message.partsIn environment pound).outcome := by
  rw [outcome_partsIn, outcome_partsIn, message.gathersAlike environment rules pound alike]

end IcuMessage
