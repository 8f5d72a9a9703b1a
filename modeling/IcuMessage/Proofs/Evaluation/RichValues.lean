import IcuMessage.Proofs.Evaluation.Gathering
import IcuMessage.Proofs.Evaluation.Lookups
import IcuMessage.Proofs.Message.Induction

/-!
# Rich values pass through

`Message.Visits` says which plain placeholders the evaluation of a message comes to,
in their order.  Unless tags have effects, the rich values among the parts of the
message are those that are bound to these placeholders: none is lost, none comes
twice, and their order is kept (`Message.addsRichValues`).
-/

namespace IcuMessage

/-- The value of a part that passes a value through. -/
def Part.argument? : Part → Option Value
  | .argument value => some value
  | .literal _ => none

/-- The values that some parts pass through. -/
def argumentsOf (parts : List Part) : List Value :=
  parts.filterMap Part.argument?

/-- The rich value that a name is bound to. -/
def Bindings.richValue? (values : Bindings) (name : String) : Option Value :=
  (values.lookup name).filter fun value => value.handle?.isSome

namespace Gathered

/-- The values that are passed through by the parts gathered so far. -/
def arguments (gathered : Gathered) : List Value :=
  argumentsOf gathered.toList

@[simp]
theorem arguments_empty : empty.arguments = [] := rfl

/-- Text adds no argument. -/
@[simp]
theorem arguments_addText (gathered : Gathered) (text : String) :
    (gathered.addText text).arguments = gathered.arguments := by
  rcases gathered with
    ⟨parts⟩
  by_cases nothing : text = ""
  · simp [nothing]
  · rcases parts with _ | ⟨_ | _, earlier⟩ <;>
      simp [arguments, argumentsOf, addText, nothing, toList, Part.argument?, List.filterMap_cons]

@[simp]
theorem arguments_add (gathered : Gathered) (part : Part) :
    (gathered.add part).arguments = gathered.arguments ++ part.argument?.toList := by
  cases part with
  | literal text => simp [add, Part.argument?]
  | argument value => simp [arguments, argumentsOf, add, toList, Part.argument?]

@[simp]
theorem arguments_addAll (gathered : Gathered) (parts : List Part) :
    (gathered.addAll parts).arguments = gathered.arguments ++ argumentsOf parts := by
  induction parts generalizing gathered with
  | nil => simp [argumentsOf]
  | cons part rest ih =>
      rw [addAll_cons, ih, arguments_add, List.append_assoc]
      cases part <;> rfl

end Gathered

/-- A tag without an effect keeps the values that its contents pass through. -/
theorem TagRules.arguments_gather
    {rules : TagRules}
    (plain : rules.effects = [])
    (name : String)
    (children : List Part)
    (gathered : Gathered) :
    (rules.gather name children gathered).arguments =
      gathered.arguments ++ argumentsOf children := by
  rw [TagRules.gather, plain]
  cases rules.fallback <;> simp

/-- A plain placeholder passes its value through if the value is rich. -/
theorem Environment.arguments_gatherArgument
    {environment : Environment}
    {name : String}
    {value : Value}
    {gathered further : Gathered}
    (bound : environment.value name = .ok value)
    (gathers : environment.gatherArgument value gathered = .ok further) :
    further.arguments =
      gathered.arguments ++ (environment.values.richValue? name).toList := by
  rw [Bindings.richValue?, Environment.value_eq_ok_iff.mp bound]
  cases value with
  | rich handle =>
      cases gathers
      exact Gathered.arguments_add ..
  | date millis =>
      rcases map_eq_ok_iff.mp gathers with
        ⟨text, _, rfl⟩
      simp [Value.handle?, Option.filter]
  | boolean truth =>
      cases truth <;>
        · cases gathers
          simp [Value.handle?, Option.filter]
  | _ =>
      cases gathers
      simp [Value.handle?, Option.filter]

/-- The evaluation of a message comes to the plain placeholders with some names, in
this order. -/
inductive Message.Visits (environment : Environment) : Message → List String → Prop where
  | nil : Visits environment [] []
  | literal {text : String} {rest : Message} {names : List String}
      (later : Visits environment rest names) :
      Visits environment (.literal text :: rest) names
  | argument {name : String} {rest : Message} {names : List String}
      (later : Visits environment rest names) :
      Visits environment (.argument name :: rest) (name :: names)
  | formatted {category : Category} {name : String} {style : Option Style} {rest : Message}
      {names : List String}
      (later : Visits environment rest names) :
      Visits environment (.formatted category name style :: rest) names
  /-- A plural is gone through in the branch that its number takes. -/
  | plural {name : String} {rule : PluralRule} {offset : Int64}
      {branches : List (PluralKey × Message)} {number : Float} {branch rest : Message}
      {inner names : List String}
      (counts : environment.number name = .ok number)
      (taken : (environment.selectPlural name branches (number - floatOfInt64 offset)
        rule).outcome = .ok branch)
      (inside : Visits environment branch inner)
      (later : Visits environment rest names) :
      Visits environment (.plural name rule offset branches :: rest) (inner ++ names)
  | select {name key : String} {branches : List (String × Message)} {branch rest : Message}
      {inner names : List String}
      (asks : environment.branchKey name = .ok key)
      (taken : (Environment.selectBranch name branches key).outcome = .ok branch)
      (inside : Visits environment branch inner)
      (later : Visits environment rest names) :
      Visits environment (.select name branches :: rest) (inner ++ names)
  | pound {rest : Message} {names : List String}
      (later : Visits environment rest names) :
      Visits environment (.pound :: rest) names
  | tag {name : String} {children rest : Message} {inner names : List String}
      (inside : Visits environment children inner)
      (later : Visits environment rest names) :
      Visits environment (.tag name children :: rest) (inner ++ names)

namespace Message

variable {environment : Environment} {message : Message}

/-- There is one order in which the placeholders are come to. -/
theorem Visits.unique
    {names others : List String}
    (visits : message.Visits environment names)
    (again : message.Visits environment others) :
    names = others := by
  induction visits generalizing others with
  | nil =>
      cases again
      rfl
  | literal _ ih =>
      cases again with
      | literal later => exact ih later
  | argument _ ih =>
      cases again with
      | argument later => rw [ih later]
  | formatted _ ih =>
      cases again with
      | formatted later => exact ih later
  | plural counts taken _ _ insideHolds ih =>
      cases again with
      | plural countsAgain takenAgain inside later =>
          rw [counts] at countsAgain
          cases countsAgain
          rw [taken] at takenAgain
          cases takenAgain
          rw [insideHolds inside, ih later]
  | select asks taken _ _ insideHolds ih =>
      cases again with
      | select asksAgain takenAgain inside later =>
          rw [asks] at asksAgain
          cases asksAgain
          rw [taken] at takenAgain
          cases takenAgain
          rw [insideHolds inside, ih later]
  | pound _ ih =>
      cases again with
      | pound later => exact ih later
  | tag _ _ insideHolds ih =>
      cases again with
      | tag inside later => rw [insideHolds inside, ih later]

/-- The placeholders of a node come before those of what is behind it. -/
theorem Visits.cons
    {node : Node}
    {rest : Message}
    {inner names : List String}
    (first : Visits environment [node] inner)
    (later : Visits environment rest names) :
    Visits environment (node :: rest) (inner ++ names) := by
  cases first with
  | literal nothing =>
      cases nothing
      exact .literal later
  | argument nothing =>
      cases nothing
      exact .argument later
  | formatted nothing =>
      cases nothing
      exact .formatted later
  | plural counts taken inside nothing =>
      cases nothing
      rw [List.append_nil]
      exact .plural counts taken inside later
  | select asks taken inside nothing =>
      cases nothing
      rw [List.append_nil]
      exact .select asks taken inside later
  | pound nothing =>
      cases nothing
      exact .pound later
  | tag inside nothing =>
      cases nothing
      rw [List.append_nil]
      exact .tag inside later

/-- Wherever a message is gathered, it adds the rich values of the placeholders that it
comes to. -/
def AddsRichValues (environment : Environment) (message : Message) : Prop :=
  ∀ pound gathered result, message.gatherIn environment pound gathered = .ok result →
    ∃ names, message.Visits environment names ∧
      result.arguments = gathered.arguments ++ names.filterMap environment.values.richValue?

namespace AddsRichValues

theorem cons
    {node : Node}
    {rest : Message}
    (first : AddsRichValues environment [node])
    (later : AddsRichValues environment rest) :
    AddsRichValues environment (node :: rest) := by
  intro pound gathered result succeeds
  rw [gatherIn_cons] at succeeds
  rcases bind_eq_ok_iff.mp succeeds with
    ⟨further, before, behind⟩
  rcases first _ _ _ before with
    ⟨inner, innerVisits, innerSame⟩
  rcases later _ _ _ behind with
    ⟨names, visits, same⟩
  refine ⟨inner ++ names, innerVisits.cons visits, ?_⟩
  rw [same, innerSame, List.filterMap_append, List.append_assoc]

/-- Text passes no value through. -/
theorem of_text
    {node : Node}
    (visits : Visits environment [node] [])
    (text : ∀ pound gathered result, gatherIn [node] environment pound gathered = .ok result →
      ∃ text, result = gathered.addText text) :
    AddsRichValues environment [node] := by
  intro pound gathered result succeeds
  rcases text _ _ _ succeeds with
    ⟨text, rfl⟩
  exact ⟨[], visits, by simp⟩

theorem literal (text : String) : AddsRichValues environment [.literal text] := by
  refine of_text (.literal .nil) fun pound gathered result succeeds => ?_
  cases succeeds
  exact ⟨text, rfl⟩

/-- A plain placeholder adds its value if it is rich. -/
theorem argument (name : String) : AddsRichValues environment [.argument name] := by
  intro pound gathered result succeeds
  rw [gatherIn_argument] at succeeds
  rcases bind_eq_ok_iff.mp succeeds with
    ⟨value, bound, succeeds⟩
  rcases bind_eq_ok_iff.mp succeeds with
    ⟨further, gathers, same⟩
  cases same
  refine ⟨[name], .argument .nil, ?_⟩
  rw [Environment.arguments_gatherArgument bound gathers]
  cases found : environment.values.richValue? name <;> simp [found]

theorem formatted
    (category : Category)
    (name : String)
    (style : Option Style) :
    AddsRichValues environment [.formatted category name style] := by
  refine of_text (.formatted .nil) fun pound gathered result succeeds => ?_
  rw [gatherIn_formatted] at succeeds
  rcases bind_eq_ok_iff.mp succeeds with
    ⟨text, _, same⟩
  cases same
  exact ⟨text, rfl⟩

theorem plural
    {branches : List (PluralKey × Message)}
    (name : String)
    (rule : PluralRule)
    (offset : Int64)
    (inside : ∀ branch ∈ branches, AddsRichValues environment branch.2) :
    AddsRichValues environment [.plural name rule offset branches] := by
  intro pound gathered result succeeds
  rw [gatherIn_plural] at succeeds
  rcases bind_eq_ok_iff.mp succeeds with
    ⟨number, counts, succeeds⟩
  rcases bind_eq_ok_iff.mp succeeds with
    ⟨branch, taken, succeeds⟩
  rcases bind_eq_ok_iff.mp succeeds with
    ⟨further, within, same⟩
  cases same
  rcases Environment.mem_of_selectPlural taken with
    ⟨key, member⟩
  rcases inside _ member _ _ _ within with
    ⟨inner, visits, adds⟩
  exact ⟨inner ++ [], .plural counts taken visits .nil, by rw [List.append_nil, adds]⟩

theorem select
    {branches : List (String × Message)}
    (name : String)
    (inside : ∀ branch ∈ branches, AddsRichValues environment branch.2) :
    AddsRichValues environment [.select name branches] := by
  intro pound gathered result succeeds
  rw [gatherIn_select] at succeeds
  rcases bind_eq_ok_iff.mp succeeds with
    ⟨key, asks, succeeds⟩
  rcases bind_eq_ok_iff.mp succeeds with
    ⟨branch, taken, succeeds⟩
  rcases bind_eq_ok_iff.mp succeeds with
    ⟨further, within, same⟩
  cases same
  rcases Environment.mem_of_selectBranch taken with
    ⟨key, member⟩
  rcases inside _ member _ _ _ within with
    ⟨inner, visits, adds⟩
  exact ⟨inner ++ [], .select asks taken visits .nil, by rw [List.append_nil, adds]⟩

theorem pound : AddsRichValues environment [.pound] := by
  refine of_text (.pound .nil) fun pound gathered result succeeds => ?_
  rw [gatherIn_pound] at succeeds
  rcases bind_eq_ok_iff.mp succeeds with
    ⟨text, _, same⟩
  cases same
  exact ⟨text, rfl⟩

/-- A tag without an effect adds the rich values of its children. -/
theorem tag
    (plain : environment.tags.effects = [])
    {children : Message}
    (name : String)
    (inside : AddsRichValues environment children) :
    AddsRichValues environment [.tag name children] := by
  intro pound gathered result succeeds
  rw [gatherIn_tag] at succeeds
  rcases bind_eq_ok_iff.mp succeeds with
    ⟨contents, within, same⟩
  cases same
  rcases inside _ _ _ within with
    ⟨inner, visits, adds⟩
  have handed : argumentsOf contents.toList = inner.filterMap environment.values.richValue? :=
    adds
  refine ⟨inner ++ [], .tag visits .nil, ?_⟩
  rw [TagRules.arguments_gather plain, handed, List.append_nil]

end AddsRichValues

/-- A message that is gathered comes to some placeholders, and their rich values are
what it adds to the values that are passed through. -/
theorem addsRichValues
    (plain : environment.tags.effects = [])
    (message : Message) :
    AddsRichValues environment message := by
  induction message using Message.induct with
  | nil =>
      intro pound gathered result succeeds
      cases succeeds
      exact ⟨[], .nil, by simp⟩
  | literal text rest later => exact .cons (.literal text) later
  | argument name rest later => exact .cons (.argument name) later
  | formatted category name style rest later =>
      exact .cons (.formatted category name style) later
  | plural name rule offset branches rest inside later =>
      exact .cons (.plural name rule offset inside) later
  | select name branches rest inside later => exact .cons (.select name inside) later
  | pound rest later => exact .cons .pound later
  | tag name children rest inside later => exact .cons (.tag plain name inside) later

end Message

end IcuMessage
