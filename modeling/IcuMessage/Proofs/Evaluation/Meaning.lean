import IcuMessage.Proofs.Evaluation.Coalescing
import IcuMessage.Proofs.Evaluation.Gathering
import IcuMessage.Proofs.Message.Induction

/-!
# The meaning of messages, by rules

`MessageMeaning` says by rules which parts a message stands for, or why it
fails.  No rule speaks of parts gathered before: the parts of a message are the
parts of its nodes, one behind the other and coalesced, and a message fails as
its first node that fails.  The number that a number sign stands for is changed
by plurals alone, and only for the branch that is taken.  What the environment finds for
a name is left to the environment; `Environment.number_eq_ok_iff` and the lemmas beside it
say when that is which number, key or text.

The main statement is `evaluation_compositional`: evaluation follows these rules,
and the parts of a message are those of its pieces.
-/

namespace IcuMessage

/-- The parts of a plain placeholder with a value. -/
def Environment.argumentParts (environment : Environment) (value : Value) :
    Except Failure (List Part) :=
  if value.isBlank then .ok []
  else match value with
    | .rich handle => .ok [.argument (.rich handle)]
    | .date millis =>
        (environment.dateTimeText .date millis none).map fun text => [.literal text]
    | plain => .ok [.literal plain.write]

/-- The parts that stand for a tag around parts. -/
def TagRules.parts (rules : TagRules) (name : String) (children : List Part) : List Part :=
  match rules.effects.lookup name with
  | some effect => effect children
  | none =>
      match rules.fallback with
      | .literal =>
          .literal ("<" ++ name ++ ">") :: children ++ [.literal ("</" ++ name ++ ">")]
      | .ignore => children

mutual

/-- The parts that a node stands for, or why it fails. -/
inductive NodeMeaning (environment : Environment) :
    Option Float → Node → Except Failure (List Part) → Prop where
  | literal {pound : Option Float} {text : String} :
      NodeMeaning environment pound (.literal text) (.ok [.literal text])
  | argument {pound : Option Float} {name : String} :
      NodeMeaning environment pound (.argument name)
        (environment.value name >>= environment.argumentParts)
  | formatted {pound : Option Float} {category : Category} {name : String}
      {style : Option Style} :
      NodeMeaning environment pound (.formatted category name style)
        ((environment.formattedText category name style).map fun text => [.literal text])
  | pluralNoNumber {pound : Option Float} {name : String} {rule : PluralRule} {offset : Int64}
      {branches : List (PluralKey × Message)} {error : Failure}
      (noNumber : environment.number name = .error error) :
      NodeMeaning environment pound (.plural name rule offset branches) (.error error)
  | pluralNoBranch {pound : Option Float} {name : String} {rule : PluralRule} {offset : Int64}
      {branches : List (PluralKey × Message)} {number : Float} {error : Failure}
      (counts : environment.number name = .ok number)
      (choice : Provider.PluralChoice environment.provider environment.locale name branches
        (number - floatOfInt64 offset) rule (.error error)) :
      NodeMeaning environment pound (.plural name rule offset branches) (.error error)
  /-- The number less the offset chooses the branch, and is what a number sign in
  the branch stands for. -/
  | plural {pound : Option Float} {name : String} {rule : PluralRule} {offset : Int64}
      {branches : List (PluralKey × Message)} {number : Float} {branch : Message}
      {result : Except Failure (List Part)}
      (counts : environment.number name = .ok number)
      (choice : Provider.PluralChoice environment.provider environment.locale name branches
        (number - floatOfInt64 offset) rule (.ok branch))
      (inside : MessageMeaning environment (some (number - floatOfInt64 offset)) branch result) :
      NodeMeaning environment pound (.plural name rule offset branches) result
  | selectNoKey {pound : Option Float} {name : String}
      {branches : List (String × Message)} {error : Failure}
      (noKey : environment.branchKey name = .error error) :
      NodeMeaning environment pound (.select name branches) (.error error)
  | selectNoBranch {pound : Option Float} {name key : String}
      {branches : List (String × Message)}
      (asks : environment.branchKey name = .ok key)
      (missing : branches.lookup key = none)
      (noOther : branches.lookup otherKey = none) :
      NodeMeaning environment pound (.select name branches) (.error (.missingOther name))
  | select {pound : Option Float} {name key : String} {branches : List (String × Message)}
      {branch : Message} {result : Except Failure (List Part)}
      (asks : environment.branchKey name = .ok key)
      (found : branches.lookup key = some branch)
      (inside : MessageMeaning environment pound branch result) :
      NodeMeaning environment pound (.select name branches) result
  | selectOther {pound : Option Float} {name key : String}
      {branches : List (String × Message)} {branch : Message}
      {result : Except Failure (List Part)}
      (asks : environment.branchKey name = .ok key)
      (missing : branches.lookup key = none)
      (found : branches.lookup otherKey = some branch)
      (inside : MessageMeaning environment pound branch result) :
      NodeMeaning environment pound (.select name branches) result
  | pound {pound : Option Float} :
      NodeMeaning environment pound .pound
        ((environment.poundText pound).map fun text => [.literal text])
  | tag {pound : Option Float} {name : String} {children : Message}
      {result : Except Failure (List Part)}
      (inside : MessageMeaning environment pound children result) :
      NodeMeaning environment pound (.tag name children)
        (result.map (environment.tags.parts name))

/-- The parts that a message stands for, or why it fails. -/
inductive MessageMeaning (environment : Environment) :
    Option Float → Message → Except Failure (List Part) → Prop where
  | nil {pound : Option Float} : MessageMeaning environment pound [] (.ok [])
  | cons {pound : Option Float} {node : Node} {rest : Message} {parts more : List Part}
      (first : NodeMeaning environment pound node (.ok parts))
      (later : MessageMeaning environment pound rest (.ok more)) :
      MessageMeaning environment pound (node :: rest) (.ok (coalesce (parts ++ more)))
  | firstFails {pound : Option Float} {node : Node} {rest : Message} {error : Failure}
      (first : NodeMeaning environment pound node (.error error)) :
      MessageMeaning environment pound (node :: rest) (.error error)
  | laterFails {pound : Option Float} {node : Node} {rest : Message} {parts : List Part}
      {error : Failure}
      (first : NodeMeaning environment pound node (.ok parts))
      (later : MessageMeaning environment pound rest (.error error)) :
      MessageMeaning environment pound (node :: rest) (.error error)

end

/-- The parts of a message are coalesced. -/
theorem MessageMeaning.coalesced {environment : Environment} {pound : Option Float}
    {message : Message} {parts : List Part}
    (meaning : MessageMeaning environment pound message (.ok parts)) :
    coalesce parts = parts := by
  cases meaning with
  | nil => rfl
  | cons first later => exact coalesce_coalesce _

/-- To gather the value of a placeholder is to add its parts. -/
theorem Environment.gatherArgument_eq_map (environment : Environment) (value : Value)
    (gathered : Gathered) :
    environment.gatherArgument value gathered =
      (environment.argumentParts value).map gathered.addAll := by
  cases value with
  | boolean truth => cases truth <;> rfl
  | date millis =>
      show (environment.dateTimeText .date millis none).map _ =
        ((environment.dateTimeText .date millis none).map _).map _
      cases environment.dateTimeText .date millis none <;> rfl
  | _ => rfl

/-- To gather a tag is to add the parts that stand for it. -/
theorem TagRules.gather_eq_addAll (rules : TagRules) (name : String)
    (children : List Part) (gathered : Gathered) :
    rules.gather name children gathered = gathered.addAll (rules.parts name children) := by
  rw [TagRules.gather, TagRules.parts]
  cases rules.effects.lookup name with
  | some effect => rfl
  | none => cases rules.fallback <;> simp [Gathered.add]

/-- A message is gathered as the rules say, behind whatever was gathered before. -/
def Message.FollowsMeaning (environment : Environment) (message : Message) : Prop :=
  ∀ pound result, MessageMeaning environment pound message result →
    ∀ gathered, message.gatherIn environment pound gathered = result.map gathered.addAll

/-- A node is gathered as the rules say, behind whatever was gathered before. -/
def Node.FollowsMeaning (environment : Environment) (node : Node) : Prop :=
  ∀ pound result, NodeMeaning environment pound node result →
    ∀ gathered,
      Message.gatherIn [node] environment pound gathered = result.map gathered.addAll

theorem Message.FollowsMeaning.cons {environment : Environment} {node : Node}
    {rest : Message} (first : node.FollowsMeaning environment)
    (later : Message.FollowsMeaning environment rest) :
    Message.FollowsMeaning environment (node :: rest) := by
  intro pound result meaning gathered
  rw [Message.gatherIn_cons]
  cases meaning with
  | cons firstMeaning laterMeaning =>
      rw [first _ _ firstMeaning]
      simp [Except.map, later _ _ laterMeaning]
  | firstFails firstMeaning =>
      rw [first _ _ firstMeaning]
      rfl
  | laterFails firstMeaning laterMeaning =>
      rw [first _ _ firstMeaning]
      simp [Except.map, later _ _ laterMeaning]

theorem Node.followsMeaning_plural {environment : Environment} (name : String)
    (rule : PluralRule) (offset : Int64) {branches : List (PluralKey × Message)}
    (inside : ∀ branch ∈ branches, branch.2.FollowsMeaning environment) :
    (Node.plural name rule offset branches).FollowsMeaning environment := by
  intro pound result meaning gathered
  rw [Message.gatherIn_plural]
  cases meaning with
  | pluralNoNumber noNumber =>
      rw [noNumber]
      rfl
  | pluralNoBranch counts choice =>
      have refused := (Provider.outcome_selectPlural_iff _ _ _ _ _ _ _).mpr choice
      simp only [counts, ok_bind, Environment.selectPlural, refused]
      rfl
  | plural counts choice meaning =>
      have taken := (Provider.outcome_selectPlural_iff _ _ _ _ _ _ _).mpr choice
      rcases choice.mem with
        ⟨key, member⟩
      simp only [counts, ok_bind, Environment.selectPlural, taken,
        inside _ member _ _ meaning]
      cases result <;> rfl

theorem Node.followsMeaning_select {environment : Environment} (name : String)
    {branches : List (String × Message)}
    (inside : ∀ branch ∈ branches, branch.2.FollowsMeaning environment) :
    (Node.select name branches).FollowsMeaning environment := by
  intro pound result meaning gathered
  rw [Message.gatherIn_select]
  cases meaning with
  | selectNoKey noKey =>
      rw [noKey]
      rfl
  | selectNoBranch asks missing noOther =>
      simp only [asks, ok_bind, Environment.outcome_selectBranch, missing, noOther]
      rfl
  | select asks found meaning =>
      have followed := inside _ (Table.mem_of_lookup found) _ _ meaning gathered
      simp only [asks, ok_bind, Environment.outcome_selectBranch, found, Option.some_or,
        followed]
      cases result <;> rfl
  | selectOther asks missing found meaning =>
      have followed := inside _ (Table.mem_of_lookup found) _ _ meaning gathered
      simp only [asks, ok_bind, Environment.outcome_selectBranch, missing, found,
        Option.none_or, followed]
      cases result <;> rfl

theorem Node.followsMeaning_tag {environment : Environment} (name : String)
    {children : Message} (inside : children.FollowsMeaning environment) :
    (Node.tag name children).FollowsMeaning environment := by
  intro pound result meaning gathered
  rw [Message.gatherIn_tag]
  cases meaning with
  | tag meaning =>
      rename_i result
      rw [inside _ _ meaning]
      cases result with
      | error error => rfl
      | ok parts =>
          simp [Except.map, TagRules.gather_eq_addAll, MessageMeaning.coalesced meaning]

/-- Every message is gathered as the rules say. -/
theorem Message.followsMeaning (environment : Environment) (message : Message) :
    message.FollowsMeaning environment := by
  induction message using Message.induct with
  | nil =>
      intro pound result meaning gathered
      cases meaning
      rw [gatherIn_nil]
      rfl
  | literal text rest later =>
      refine .cons ?_ later
      intro pound result meaning gathered
      cases meaning
      simp [Except.map, Gathered.add]
  | argument name rest later =>
      refine .cons ?_ later
      intro pound result meaning gathered
      cases meaning
      cases bound : environment.value name <;>
        simp [bound, Environment.gatherArgument_eq_map, Except.map]
      cases environment.argumentParts _ <;> rfl
  | formatted category name style rest later =>
      refine .cons ?_ later
      intro pound result meaning gathered
      cases meaning
      rw [gatherIn_formatted]
      cases environment.formattedText category name style <;> simp [Except.map, Gathered.add]
  | plural name rule offset branches rest inside later =>
      exact .cons (Node.followsMeaning_plural name rule offset inside) later
  | select name branches rest inside later =>
      exact .cons (Node.followsMeaning_select name inside) later
  | pound rest later =>
      refine .cons ?_ later
      intro pound result meaning gathered
      cases meaning
      rw [gatherIn_pound]
      cases environment.poundText pound <;> simp [Except.map, Gathered.add]
  | tag name children rest inside later =>
      exact .cons (Node.followsMeaning_tag name inside) later

/-- Between them the rules for messages leave no case out. -/
theorem MessageMeaning.exists_cons {environment : Environment} {pound : Option Float}
    {node : Node} {rest : Message}
    (first : ∃ result, NodeMeaning environment pound node result)
    (later : ∃ result, MessageMeaning environment pound rest result) :
    ∃ result, MessageMeaning environment pound (node :: rest) result := by
  rcases first with
    ⟨parts | parts, first⟩
  · exact ⟨_, .firstFails first⟩
  rcases later with
    ⟨more | more, later⟩
  · exact ⟨_, .laterFails first later⟩
  · exact ⟨_, .cons first later⟩

/-- Between them the rules for plurals leave no case out. -/
theorem NodeMeaning.exists_plural {environment : Environment} {pound : Option Float}
    (name : String) (rule : PluralRule) (offset : Int64)
    {branches : List (PluralKey × Message)}
    (inside : ∀ branch ∈ branches, ∀ pound, ∃ result,
      MessageMeaning environment pound branch.2 result) :
    ∃ result, NodeMeaning environment pound (.plural name rule offset branches) result := by
  rcases counts : environment.number name with error | number
  · exact ⟨_, .pluralNoNumber counts⟩
  have choice := (Provider.outcome_selectPlural_iff environment.provider environment.locale
    name branches (number - floatOfInt64 offset) rule _).mp rfl
  generalize Traced.outcome _ = chosen at choice
  rcases chosen with error | branch
  · exact ⟨_, .pluralNoBranch counts choice⟩
  · rcases choice.mem with
      ⟨key, member⟩
    rcases inside _ member (some (number - floatOfInt64 offset)) with
      ⟨result, meaning⟩
    exact ⟨result, .plural counts choice meaning⟩

theorem NodeMeaning.exists_select {environment : Environment} {pound : Option Float}
    (name : String) {branches : List (String × Message)}
    (inside : ∀ branch ∈ branches, ∀ pound, ∃ result,
      MessageMeaning environment pound branch.2 result) :
    ∃ result, NodeMeaning environment pound (.select name branches) result := by
  rcases asks : environment.branchKey name with error | key
  · exact ⟨_, .selectNoKey asks⟩
  rcases found : branches.lookup key with _ | branch
  · rcases other : branches.lookup otherKey with _ | branch
    · exact ⟨_, .selectNoBranch asks found other⟩
    · rcases inside _ (Table.mem_of_lookup other) pound with
        ⟨result, meaning⟩
      exact ⟨result, .selectOther asks found other meaning⟩
  · rcases inside _ (Table.mem_of_lookup found) pound with
      ⟨result, meaning⟩
    exact ⟨result, .select asks found meaning⟩

/-- The rules leave no message without a meaning. -/
theorem MessageMeaning.exists_result (environment : Environment) (message : Message)
    (pound : Option Float) : ∃ result, MessageMeaning environment pound message result := by
  induction message using Message.induct generalizing pound with
  | nil => exact ⟨_, .nil⟩
  | literal text rest later => exact exists_cons ⟨_, .literal⟩ (later pound)
  | argument name rest later => exact exists_cons ⟨_, .argument⟩ (later pound)
  | formatted category name style rest later =>
      exact exists_cons ⟨_, .formatted⟩ (later pound)
  | plural name rule offset branches rest inside later =>
      exact exists_cons (NodeMeaning.exists_plural name rule offset inside) (later pound)
  | select name branches rest inside later =>
      exact exists_cons (NodeMeaning.exists_select name inside) (later pound)
  | pound rest later => exact exists_cons ⟨_, .pound⟩ (later pound)
  | tag name children rest inside later =>
      rcases inside pound with
        ⟨result, meaning⟩
      exact exists_cons ⟨_, .tag meaning⟩ (later pound)

namespace Message

variable (environment : Environment) (pound : Option Float)

/-- Evaluation follows the rules, and the rules describe nothing else. -/
theorem outcome_partsIn_iff (message : Message) (result : Except Failure (List Part)) :
    (message.partsIn environment pound).outcome = result ↔
      MessageMeaning environment pound message result := by
  have follows : ∀ {result}, MessageMeaning environment pound message result →
      (message.partsIn environment pound).outcome = result := by
    intro result meaning
    rw [outcome_partsIn, followsMeaning environment message _ _ meaning]
    cases result with
    | error error => rfl
    | ok parts => simp [Except.map, meaning.coalesced]
  constructor
  · intro same
    rcases MessageMeaning.exists_result environment message pound with
      ⟨found, meaning⟩
    rw [← same, follows meaning]
    exact meaning
  · exact follows

/-- Behind parts gathered before, a message adds the parts that it has alone. -/
theorem gatherIn_eq_map_addAll (message : Message) (gathered : Gathered) :
    message.gatherIn environment pound gathered =
      (message.partsIn environment pound).outcome.map gathered.addAll :=
  followsMeaning environment message _ _
    ((outcome_partsIn_iff environment pound message _).mp rfl) gathered

/-- Two messages in a row are gathered one behind the other. -/
theorem gatherIn_append (front back : Message) (gathered : Gathered) :
    gatherIn (front ++ back) environment pound gathered =
      (front.gatherIn environment pound gathered >>= fun further =>
        back.gatherIn environment pound further) := by
  induction front generalizing gathered with
  | nil => simp
  | cons node rest ih =>
      rw [List.cons_append, gatherIn_cons, gatherIn_cons environment pound gathered rest node,
        bind_assoc]
      simp only [ih]

/-- The parts of two messages in a row are those of both, coalesced. -/
theorem outcome_partsIn_append (front back : Message) :
    (partsIn (front ++ back) environment pound).outcome =
      (do
        let first ← (front.partsIn environment pound).outcome
        let second ← (back.partsIn environment pound).outcome
        .ok (coalesce (first ++ second))) := by
  rw [outcome_partsIn, gatherIn_append, gatherIn_eq_map_addAll]
  simp only [gatherIn_eq_map_addAll environment pound back]
  rcases (front.partsIn environment pound).outcome with error | first
  · rfl
  rcases (back.partsIn environment pound).outcome with error | second
  · rfl
  · simp [Except.map, ← Gathered.addAll_append]

/-- The parts of a message are those of its nodes, coalesced. -/
theorem outcome_partsIn_eq_mapM (message : Message) :
    (message.partsIn environment pound).outcome =
      (message.mapM fun node => (partsIn [node] environment pound).outcome).map
        fun outputs => coalesce outputs.flatten := by
  induction message with
  | nil => simp [outcome_partsIn, Except.map]; rfl
  | cons node rest ih =>
      rw [← List.singleton_append, outcome_partsIn_append, ih, List.singleton_append,
        List.mapM_cons]
      rcases (partsIn [node] environment pound).outcome with error | first
      · rfl
      rcases rest.mapM fun node => (partsIn [node] environment pound).outcome with
        error | outputs
      · rfl
      · show Except.ok (coalesce (first ++ coalesce outputs.flatten)) =
          Except.ok (coalesce (first :: outputs).flatten)
        rw [List.flatten_cons, coalesce_append first outputs.flatten,
          coalesce_append first (coalesce _), coalesce_coalesce]

end Message

/-- Evaluation is compositional.  It gives exactly what the rules give; the parts
of a message are the parts of its nodes, coalesced, or the failure of the first
node that fails; and two messages in a row have the parts of the one followed by
those of the other. -/
theorem evaluation_compositional (environment : Environment) (pound : Option Float) :
    (∀ (message : Message) (result : Except Failure (List Part)),
      (message.partsIn environment pound).outcome = result ↔
        MessageMeaning environment pound message result) ∧
    (∀ message : Message,
      (message.partsIn environment pound).outcome =
        (message.mapM fun node => (Message.partsIn [node] environment pound).outcome).map
          fun outputs => coalesce outputs.flatten) ∧
    (∀ front back : Message,
      (Message.partsIn (front ++ back) environment pound).outcome =
        (do
          let first ← (front.partsIn environment pound).outcome
          let second ← (back.partsIn environment pound).outcome
          .ok (coalesce (first ++ second)))) := by
  refine ⟨?_, ?_, ?_⟩
  · exact Message.outcome_partsIn_iff environment pound
  · exact Message.outcome_partsIn_eq_mapM environment pound
  · exact Message.outcome_partsIn_append environment pound

end IcuMessage
