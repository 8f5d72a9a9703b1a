import IcuMessage.Proofs.Message.Walk

/-!
# Replacing nodes at every depth

A replacement says which nodes are to stand for a node.  It is carried out from the inside
of a message to the outside: the branches of a plural or select and the contents of a tag
undergo it before the node around them does.

Taking out the placeholders of a name is a replacement.  Where only placeholders have the
name, the message does not mention it afterwards
(`Message.OnlyInPlaceholders.not_mentions`).
-/

namespace IcuMessage

mutual

/-- The nodes that stand for a node after a replacement. -/
def Node.replaced (change : Node → List Node) : Node → List Node
  | .literal text => change (.literal text)
  | .argument name => change (.argument name)
  | .formatted category name style => change (.formatted category name style)
  | .plural name rule offset branches =>
      change (.plural name rule offset (replacedPluralBranches change branches))
  | .select name branches => change (.select name (replacedSelectBranches change branches))
  | .pound => change .pound
  | .tag name children => change (.tag name (Message.replaced change children))

/-- A message after a replacement. -/
def Message.replaced (change : Node → List Node) : Message → Message
  | [] => []
  | node :: rest => node.replaced change ++ Message.replaced change rest

/-- The branches of a plural after a replacement. -/
def replacedPluralBranches (change : Node → List Node) :
    List (PluralKey × List Node) → List (PluralKey × List Node)
  | [] => []
  | (key, body) :: rest => (key, Message.replaced change body) :: replacedPluralBranches change rest

/-- The branches of a select after a replacement. -/
def replacedSelectBranches (change : Node → List Node) :
    List (String × List Node) → List (String × List Node)
  | [] => []
  | (key, body) :: rest => (key, Message.replaced change body) :: replacedSelectBranches change rest

end

section Branches

variable (change : Node → List Node)

/-- Nodes are replaced in every branch of a plural, and its keys stay. -/
theorem replacedPluralBranches_eq_map (branches : List (PluralKey × Message)) :
    replacedPluralBranches change branches =
      branches.map fun branch => (branch.1, Message.replaced change branch.2) := by
  induction branches with
  | nil => rw [replacedPluralBranches, List.map_nil]
  | cons branch rest ih => rw [replacedPluralBranches, ih, List.map_cons]

theorem replacedSelectBranches_eq_map (branches : List (String × Message)) :
    replacedSelectBranches change branches =
      branches.map fun branch => (branch.1, Message.replaced change branch.2) := by
  induction branches with
  | nil => rw [replacedSelectBranches, List.map_nil]
  | cons branch rest ih => rw [replacedSelectBranches, ih, List.map_cons]

@[simp]
theorem Message.replaced_nil : replaced change [] = [] := by
  rw [replaced]

@[simp]
theorem Message.replaced_cons (node : Node) (rest : Message) :
    replaced change (node :: rest) = node.replaced change ++ replaced change rest := by
  rw [replaced]

end Branches

/-! ## Taking out placeholders -/

/-- The node is a plain or formatted placeholder with the name. -/
def Node.isPlaceholder (name : String) : Node → Bool
  | .argument other | .formatted _ other _ => other == name
  | .literal _ | .plural _ _ _ _ | .select _ _ | .pound | .tag _ _ => false

/-- The node, unless it is a placeholder with the name. -/
def Node.unlessPlaceholder (name : String) (node : Node) : List Node :=
  if node.isPlaceholder name then [] else [node]

namespace Message

/-- A message with the placeholders of a name taken out, at every depth. -/
def withoutPlaceholders (name : String) (message : Message) : Message :=
  message.replaced (Node.unlessPlaceholder name)

/-- Only placeholders of the message have the name, and no plural or select. -/
def OnlyInPlaceholders (name : String) (message : Message) : Prop :=
  ∀ node, message.Contains node → node.valueName? = some name → node.isPlaceholder name = true

/-- A node among some asks for the value of the name otherwise than as a placeholder. -/
def AskedOtherwise (name : String) (nodes : List Node) : Prop :=
  ∃ node ∈ nodes, node.valueName? = some name ∧ node.isPlaceholder name = false

/-- Nodes ask for the value of the name only where other nodes do so otherwise than as a
placeholder. -/
def AskOnlyLike (name : String) (nodes others : List Node) : Prop :=
  ∀ node ∈ nodes, node.valueName? = some name → AskedOtherwise name others

variable {name : String}

theorem AskedOtherwise.mono
    {nodes others : List Node}
    (asked : AskedOtherwise name nodes)
    (within : nodes ⊆ others) :
    AskedOtherwise name others := by
  rcases asked with
    ⟨node, member, asks, other⟩
  exact ⟨node, within member, asks, other⟩

namespace AskOnlyLike

theorem cons
    {node : Node}
    {rest : Message}
    (first : AskOnlyLike name (walk (node.replaced (Node.unlessPlaceholder name)))
      (node :: node.inside))
    (later : AskOnlyLike name (walk (rest.withoutPlaceholders name)) rest.walk) :
    AskOnlyLike name (walk (withoutPlaceholders name (node :: rest))) (walk (node :: rest)) := by
  intro kept passed asks
  rw [withoutPlaceholders, replaced_cons, walk_append, List.mem_append] at passed
  rw [walk_cons, ← List.cons_append]
  rcases passed with inFirst | behind
  · exact (first kept inFirst asks).mono (List.subset_append_left _ _)
  · exact (later kept behind asks).mono (List.subset_append_right _ _)

/-- A node that stays asks as it did before, whatever has been done to the nodes inside. -/
theorem unlessPlaceholder
    {node changed : Node}
    (asksLike : changed.valueName? = node.valueName?)
    (placedLike : changed.isPlaceholder name = node.isPlaceholder name)
    (inside : AskOnlyLike name changed.inside node.inside) :
    AskOnlyLike name (walk (changed.unlessPlaceholder name)) (node :: node.inside) := by
  intro kept passed asks
  rw [Node.unlessPlaceholder] at passed
  split at passed
  case isTrue => cases passed
  case isFalse stays =>
    rw [walk_cons, walk_nil, List.append_nil, List.mem_cons] at passed
    rcases passed with rfl | within
    · exact ⟨node, List.mem_cons_self, asksLike ▸ asks, by simpa [placedLike] using stays⟩
    · exact (inside kept within asks).mono (List.subset_cons_self _ _)

theorem leaf
    {node : Node}
    (alone : node.inside = []) :
    AskOnlyLike name (walk (node.unlessPlaceholder name)) (node :: node.inside) := by
  refine unlessPlaceholder rfl rfl ?_
  rw [alone]
  exact nofun

theorem branches
    {κ : Type}
    {branches : List (κ × Message)}
    (inside : ∀ branch ∈ branches,
      AskOnlyLike name (walk (branch.2.withoutPlaceholders name)) branch.2.walk) :
    AskOnlyLike name
      ((branches.map fun branch => (branch.1, branch.2.withoutPlaceholders name)).flatMap
        fun branch => walk branch.2)
      (branches.flatMap fun branch => walk branch.2) := by
  intro kept passed asks
  rw [List.flatMap_map, List.mem_flatMap] at passed
  rcases passed with
    ⟨branch, member, within⟩
  exact (inside branch member kept within asks).mono fun _ passed =>
    List.mem_flatMap.mpr ⟨branch, member, passed⟩

end AskOnlyLike

/-- What is left without the placeholders asks for no name that the message did not ask
for. -/
theorem askOnlyLike_withoutPlaceholders (name : String) (message : Message) :
    AskOnlyLike name (walk (message.withoutPlaceholders name)) message.walk := by
  induction message using Message.induct with
  | nil => exact nofun
  | literal text rest later => exact .cons (.leaf rfl) later
  | argument other rest later => exact .cons (.leaf rfl) later
  | formatted category other style rest later => exact .cons (.leaf rfl) later
  | plural other rule offset branches rest inside later =>
      refine .cons (.unlessPlaceholder rfl rfl ?_) later
      rw [replacedPluralBranches_eq_map, Node.inside, Node.inside,
        insidePluralBranches_eq_flatMap, insidePluralBranches_eq_flatMap]
      exact .branches inside
  | select other branches rest inside later =>
      refine .cons (.unlessPlaceholder rfl rfl ?_) later
      rw [replacedSelectBranches_eq_map, Node.inside, Node.inside,
        insideSelectBranches_eq_flatMap, insideSelectBranches_eq_flatMap]
      exact .branches inside
  | pound rest later => exact .cons (.leaf rfl) later
  | tag tag children rest inside later =>
      exact .cons (.unlessPlaceholder rfl rfl inside) later

/-- A name that only placeholders have is gone with them. -/
theorem OnlyInPlaceholders.not_mentions
    {message : Message}
    (placed : message.OnlyInPlaceholders name) :
    ¬ (message.withoutPlaceholders name).Mentions name := by
  rintro ⟨node, contained, asks⟩
  rcases askOnlyLike_withoutPlaceholders name message node (mem_walk_iff.mpr contained) asks with
    ⟨other, passed, asked, otherwise⟩
  rw [placed other (mem_walk_iff.mp passed) asked] at otherwise
  cases otherwise

end Message

end IcuMessage
