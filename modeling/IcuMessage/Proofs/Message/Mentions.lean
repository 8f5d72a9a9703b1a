import IcuMessage.Message.Basic

/-!
# What a message mentions

A message mentions a name if a placeholder or an argument in it has the name, at any
depth and in any branch.  It mentions a named style in the category of the
placeholder that asks for it.  The names of tags are no names of values.
-/

namespace IcuMessage

/-- A node stands in a message, at any depth. -/
inductive Message.Contains (node : Node) : Message → Prop where
  | first {rest : Message} : Contains node (node :: rest)
  | behind {other : Node} {rest : Message}
      (later : Contains node rest) :
      Contains node (other :: rest)
  | inPlural {name : String} {rule : PluralRule} {offset : Int64}
      {branches : List (PluralKey × Message)} {rest : Message} {branch : PluralKey × Message}
      (member : branch ∈ branches)
      (inside : Contains node branch.2) :
      Contains node (.plural name rule offset branches :: rest)
  | inSelect {name : String} {branches : List (String × Message)} {rest : Message}
      {branch : String × Message}
      (member : branch ∈ branches)
      (inside : Contains node branch.2) :
      Contains node (.select name branches :: rest)
  | inTag {name : String} {children rest : Message}
      (inside : Contains node children) :
      Contains node (.tag name children :: rest)

/-- The name of the value that a node asks for. -/
def Node.valueName? : Node → Option String
  | .argument name | .formatted _ name _ | .plural name _ _ _ | .select name _ => some name
  | .literal _ | .pound | .tag _ _ => none

namespace Message

/-- A node of the message asks for the value of the name. -/
def Mentions (name : String) (message : Message) : Prop :=
  ∃ node, message.Contains node ∧ node.valueName? = some name

/-- A placeholder of the message asks for the style with a name in a category. -/
def MentionsStyle (category : Category) (style : String) (message : Message) : Prop :=
  ∃ name, message.Contains (.formatted category name (some (.named style)))

theorem Mentions.first
    {node : Node}
    {name : String}
    (asks : node.valueName? = some name)
    (rest : Message) :
    Mentions name (node :: rest) :=
  ⟨node, .first, asks⟩

/-- Whatever one message contains, the other contains too. -/
def Within (inner outer : Message) : Prop :=
  ∀ node, inner.Contains node → outer.Contains node

namespace Within

variable {inner outer : Message}

/-- Whatever an inner message mentions, the outer one does. -/
theorem mentions
    {name : String}
    (within : inner.Within outer)
    (mentioned : inner.Mentions name) :
    outer.Mentions name := by
  rcases mentioned with
    ⟨node, contained, asks⟩
  exact ⟨node, within node contained, asks⟩

theorem first (node : Node) (rest : Message) : Within [node] (node :: rest) := by
  intro member contained
  cases contained with
  | first => exact .first
  | behind later => cases later
  | inPlural branch inside => exact .inPlural branch inside
  | inSelect branch inside => exact .inSelect branch inside
  | inTag inside => exact .inTag inside

theorem rest (node : Node) (rest : Message) : Within rest (node :: rest) :=
  fun _ contained => .behind contained

theorem pluralBranch
    {branches : List (PluralKey × Message)}
    {branch : PluralKey × Message}
    (name : String)
    (rule : PluralRule)
    (offset : Int64)
    (rest : Message)
    (member : branch ∈ branches) :
    Within branch.2 (.plural name rule offset branches :: rest) :=
  fun _ contained => .inPlural member contained

theorem selectBranch
    {branches : List (String × Message)}
    {branch : String × Message}
    (name : String)
    (rest : Message)
    (member : branch ∈ branches) :
    Within branch.2 (.select name branches :: rest) :=
  fun _ contained => .inSelect member contained

theorem children
    (name : String)
    (children rest : Message) :
    Within children (.tag name children :: rest) :=
  fun _ contained => .inTag contained

end Within

end Message

end IcuMessage
