import IcuMessage.Proofs.Message.Walk

/-!
# Messages without their tags

Taking the tags off a message puts the contents of each tag in its place, at every
depth.  No tag is left (`Message.untagged_tagFree`).
-/

namespace IcuMessage

mutual

/-- The nodes that stand for a node when tags are taken off. -/
def Node.untagged : Node → List Node
  | .literal text => [.literal text]
  | .argument name => [.argument name]
  | .formatted category name style => [.formatted category name style]
  | .plural name rule offset branches =>
      [.plural name rule offset (untaggedPluralBranches branches)]
  | .select name branches => [.select name (untaggedSelectBranches branches)]
  | .pound => [.pound]
  | .tag _ children => Message.untagged children

/-- A message with the contents of its tags in the place of the tags. -/
def Message.untagged : Message → Message
  | [] => []
  | node :: rest => node.untagged ++ Message.untagged rest

/-- The branches of a plural with their tags taken off. -/
def untaggedPluralBranches : List (PluralKey × List Node) → List (PluralKey × List Node)
  | [] => []
  | (key, body) :: rest => (key, Message.untagged body) :: untaggedPluralBranches rest

/-- The branches of a select with their tags taken off. -/
def untaggedSelectBranches : List (String × List Node) → List (String × List Node)
  | [] => []
  | (key, body) :: rest => (key, Message.untagged body) :: untaggedSelectBranches rest

end

theorem untaggedPluralBranches_eq_map (branches : List (PluralKey × Message)) :
    untaggedPluralBranches branches =
      branches.map fun branch => (branch.1, Message.untagged branch.2) := by
  induction branches with
  | nil => rw [untaggedPluralBranches, List.map_nil]
  | cons branch rest ih => rw [untaggedPluralBranches, ih, List.map_cons]

theorem untaggedSelectBranches_eq_map (branches : List (String × Message)) :
    untaggedSelectBranches branches =
      branches.map fun branch => (branch.1, Message.untagged branch.2) := by
  induction branches with
  | nil => rw [untaggedSelectBranches, List.map_nil]
  | cons branch rest ih => rw [untaggedSelectBranches, ih, List.map_cons]

namespace Message

@[simp]
theorem untagged_nil : untagged [] = [] := by
  rw [untagged]

@[simp]
theorem untagged_cons (node : Node) (rest : Message) :
    untagged (node :: rest) = node.untagged ++ untagged rest := by
  rw [untagged]

/-- There is no tag in the message, at any depth. -/
def TagFree (message : Message) : Prop :=
  ∀ name children, ¬message.Contains (.tag name children)

theorem tagFree_append
    {front back : Message}
    (frontFree : front.TagFree)
    (backFree : back.TagFree) :
    TagFree (front ++ back) := by
  intro name children contained
  rcases contains_append_iff.mp contained with inFront | inBack
  · exact frontFree _ _ inFront
  · exact backFree _ _ inBack

theorem tagFree_singleton
    {node : Node}
    (plain : ∀ name children, node ≠ .tag name children)
    (inside : ∀ name children, .tag name children ∉ node.inside) :
    TagFree [node] := by
  intro name children contained
  rw [← mem_walk_iff, walk_cons, walk_nil, List.append_nil, List.mem_cons] at contained
  rcases contained with same | within
  · exact plain _ _ same.symm
  · exact inside _ _ within

theorem tagFree_leaf
    {node : Node}
    (plain : ∀ name children, node ≠ .tag name children)
    (leaf : node.inside = []) :
    TagFree [node] := by
  refine tagFree_singleton plain fun name children => ?_
  rw [leaf]
  exact List.not_mem_nil

theorem tag_not_mem_of_branches
    {κ : Type}
    {branches : List (κ × Message)}
    (inside : ∀ branch ∈ branches, (untagged branch.2).TagFree)
    (name : String)
    (children : Message) :
    .tag name children ∉
      (branches.map fun branch => (branch.1, untagged branch.2)).flatMap fun branch =>
        walk branch.2 := by
  intro within
  rw [List.flatMap_map, List.mem_flatMap] at within
  rcases within with
    ⟨branch, member, within⟩
  exact inside branch member name children (mem_walk_iff.mp within)

/-- Where the tags are taken off, none is left. -/
theorem untagged_tagFree (message : Message) : message.untagged.TagFree := by
  induction message using Message.induct with
  | nil =>
      rw [untagged_nil]
      exact fun name children contained => List.not_mem_nil (mem_walk_iff.mpr contained)
  | literal text rest later =>
      rw [untagged_cons, Node.untagged]
      exact tagFree_append (tagFree_leaf (by simp) rfl) later
  | argument name rest later =>
      rw [untagged_cons, Node.untagged]
      exact tagFree_append (tagFree_leaf (by simp) rfl) later
  | formatted category name style rest later =>
      rw [untagged_cons, Node.untagged]
      exact tagFree_append (tagFree_leaf (by simp) rfl) later
  | plural name rule offset branches rest inside later =>
      rw [untagged_cons, Node.untagged, untaggedPluralBranches_eq_map]
      refine tagFree_append (tagFree_singleton (by simp) ?_) later
      rw [Node.inside, insidePluralBranches_eq_flatMap]
      exact tag_not_mem_of_branches inside
  | select name branches rest inside later =>
      rw [untagged_cons, Node.untagged, untaggedSelectBranches_eq_map]
      refine tagFree_append (tagFree_singleton (by simp) ?_) later
      rw [Node.inside, insideSelectBranches_eq_flatMap]
      exact tag_not_mem_of_branches inside
  | pound rest later =>
      rw [untagged_cons, Node.untagged]
      exact tagFree_append (tagFree_leaf (by simp) rfl) later
  | tag name children rest inside later =>
      rw [untagged_cons, Node.untagged]
      exact tagFree_append inside later

end Message

end IcuMessage
