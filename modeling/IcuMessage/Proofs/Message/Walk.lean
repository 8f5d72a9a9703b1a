import IcuMessage.Proofs.Message.Mentions
import IcuMessage.Proofs.Message.Validation

/-!
# Walking through a message

`Message.walk` lists the nodes of a message depth first: a node stands before those
inside it, and these before what follows it.  The messages in a plural or select come
in the order of its branches, which is the order of their keys.  The walk passes every
node of a message, at any depth (`Message.mem_walk_iff`).

Validation takes one step at each node on the walk, and these steps are all there is
to it (`Message.validate_eq_validateAll_walk`).
-/

namespace IcuMessage

mutual

/-- The nodes inside a node, depth first. -/
def Node.inside : Node → List Node
  | .literal _ | .argument _ | .formatted _ _ _ | .pound => []
  | .plural _ _ _ branches => insidePluralBranches branches
  | .select _ branches => insideSelectBranches branches
  | .tag _ children => Message.walk children

/-- The nodes of a message with those inside them, depth first. -/
def Message.walk : Message → List Node
  | [] => []
  | node :: rest => node :: (node.inside ++ Message.walk rest)

/-- The nodes in the branches of a plural. -/
def insidePluralBranches : List (PluralKey × List Node) → List Node
  | [] => []
  | (_, body) :: rest => Message.walk body ++ insidePluralBranches rest

/-- The nodes in the branches of a select. -/
def insideSelectBranches : List (String × List Node) → List Node
  | [] => []
  | (_, body) :: rest => Message.walk body ++ insideSelectBranches rest

end

/-- The nodes inside plural branches are those of their messages. -/
theorem insidePluralBranches_eq_flatMap (branches : List (PluralKey × Message)) :
    insidePluralBranches branches = branches.flatMap fun branch => Message.walk branch.2 := by
  induction branches with
  | nil => rw [insidePluralBranches, List.flatMap_nil]
  | cons branch rest ih => rw [insidePluralBranches, ih, List.flatMap_cons]

theorem insideSelectBranches_eq_flatMap (branches : List (String × Message)) :
    insideSelectBranches branches = branches.flatMap fun branch => Message.walk branch.2 := by
  induction branches with
  | nil => rw [insideSelectBranches, List.flatMap_nil]
  | cons branch rest ih => rw [insideSelectBranches, ih, List.flatMap_cons]

namespace Message

variable {node : Node}

@[simp]
theorem walk_nil : walk [] = [] := by
  rw [walk]

@[simp]
theorem walk_cons (first : Node) (rest : Message) :
    walk (first :: rest) = first :: (first.inside ++ walk rest) := by
  rw [walk]

@[simp]
theorem walk_append (front back : Message) : walk (front ++ back) = walk front ++ walk back := by
  induction front with
  | nil => rfl
  | cons first rest ih =>
      rw [List.cons_append, walk_cons, walk_cons, ih, List.cons_append, List.append_assoc]

/-- What a walk comes past is contained, be it inside the first node or later. -/
theorem contains_of_mem_walk
    {first : Node}
    {rest : Message}
    (inside : node ∈ first.inside → Contains node (first :: rest))
    (later : node ∈ walk rest → Contains node rest)
    (passed : node ∈ walk (first :: rest)) :
    Contains node (first :: rest) := by
  rw [walk_cons, List.mem_cons, List.mem_append] at passed
  rcases passed with rfl | within | behind
  · exact .first
  · exact inside within
  · exact .behind (later behind)

/-- The walk passes the nodes of the message, at every depth, and no others. -/
theorem mem_walk_iff {message : Message} : node ∈ message.walk ↔ message.Contains node := by
  constructor
  · intro passed
    induction message using Message.induct with
    | nil => cases passed
    | literal text rest later => exact contains_of_mem_walk nofun later passed
    | argument name rest later => exact contains_of_mem_walk nofun later passed
    | formatted category name style rest later => exact contains_of_mem_walk nofun later passed
    | plural name rule offset branches rest inside later =>
        refine contains_of_mem_walk (fun within => ?_) later passed
        rw [Node.inside, insidePluralBranches_eq_flatMap, List.mem_flatMap] at within
        rcases within with
          ⟨branch, member, within⟩
        exact .inPlural member (inside branch member within)
    | select name branches rest inside later =>
        refine contains_of_mem_walk (fun within => ?_) later passed
        rw [Node.inside, insideSelectBranches_eq_flatMap, List.mem_flatMap] at within
        rcases within with
          ⟨branch, member, within⟩
        exact .inSelect member (inside branch member within)
    | pound rest later => exact contains_of_mem_walk nofun later passed
    | tag name children rest inside later =>
        exact contains_of_mem_walk (fun within => .inTag (inside within)) later passed
  · intro contained
    induction contained with
    | first => simp
    | behind _ ih => simp [ih]
    | inPlural member _ ih =>
        rw [walk_cons, Node.inside, insidePluralBranches_eq_flatMap]
        simp only [List.mem_cons, List.mem_append, List.mem_flatMap]
        exact Or.inr (Or.inl ⟨_, member, ih⟩)
    | inSelect member _ ih =>
        rw [walk_cons, Node.inside, insideSelectBranches_eq_flatMap]
        simp only [List.mem_cons, List.mem_append, List.mem_flatMap]
        exact Or.inr (Or.inl ⟨_, member, ih⟩)
    | inTag _ ih =>
        rw [walk_cons, Node.inside]
        simp [ih]

/-- Two messages in a row contain what either of them contains. -/
theorem contains_append_iff {front back : Message} :
    Contains node (front ++ back) ↔ front.Contains node ∨ back.Contains node := by
  rw [← mem_walk_iff, ← mem_walk_iff, ← mem_walk_iff, walk_append, List.mem_append]

end Message

/-! ## Validation along the walk -/

/-- What validation does at a node before it goes on to the nodes inside. -/
def Node.validateAlone (sheet : StyleSheet) : Node → StyleMemo → Except Failure StyleMemo
  | .formatted category _ style, memo => memo.remember sheet category style
  | .plural name _ _ branches, memo =>
      if (branches.lookup PluralKey.other).isSome then .ok memo else .error (.missingOther name)
  | .select name branches, memo =>
      if (branches.lookup otherKey).isSome then .ok memo else .error (.missingOther name)
  | .literal _, memo | .argument _, memo | .pound, memo | .tag _ _, memo => .ok memo

/-- Validate nodes one after the other, without those inside them. -/
def validateAll (sheet : StyleSheet) (nodes : List Node) (memo : StyleMemo) :
    Except Failure StyleMemo :=
  nodes.foldlM (fun memo node => node.validateAlone sheet memo) memo

section Validation

variable {sheet : StyleSheet} {memo : StyleMemo}

@[simp]
theorem validateAll_nil : validateAll sheet [] memo = .ok memo := rfl

@[simp]
theorem validateAll_cons (node : Node) (nodes : List Node) :
    validateAll sheet (node :: nodes) memo =
      (node.validateAlone sheet memo >>= fun further => validateAll sheet nodes further) :=
  List.foldlM_cons

@[simp]
theorem validateAll_append (front back : List Node) :
    validateAll sheet (front ++ back) memo =
      (validateAll sheet front memo >>= fun further => validateAll sheet back further) :=
  List.foldlM_append

/-- Sheets under which every node validates alike validate them all alike. -/
theorem validateAll_congr
    {other : StyleSheet}
    {nodes : List Node}
    (same : ∀ node ∈ nodes, ∀ memo, node.validateAlone sheet memo = node.validateAlone other memo)
    (memo : StyleMemo) :
    validateAll sheet nodes memo = validateAll other nodes memo := by
  induction nodes generalizing memo with
  | nil => rfl
  | cons node rest ih =>
      rw [validateAll_cons, validateAll_cons, same node List.mem_cons_self]
      exact bind_congr fun further => ih (fun node member => same node (.tail _ member)) further

theorem validateAll_branches
    {κ : Type}
    {branches : List (κ × Message)}
    (inside : ∀ branch ∈ branches, ∀ memo,
      Message.validate sheet branch.2 memo = validateAll sheet (Message.walk branch.2) memo)
    (memo : StyleMemo) :
    branches.foldlM (fun memo branch => Message.validate sheet branch.2 memo) memo =
      validateAll sheet (branches.flatMap fun branch => Message.walk branch.2) memo := by
  induction branches generalizing memo with
  | nil => rfl
  | cons branch rest ih =>
      rw [List.foldlM_cons, List.flatMap_cons, validateAll_append,
        inside branch List.mem_cons_self]
      exact bind_congr fun further =>
        ih (fun branch member => inside branch (.tail _ member)) further

theorem Message.validate_cons_eq
    {node : Node}
    {rest : Message}
    (first : ∀ memo, node.validate sheet memo =
      (node.validateAlone sheet memo >>= fun further => validateAll sheet node.inside further))
    (later : ∀ memo, Message.validate sheet rest memo = validateAll sheet rest.walk memo)
    (memo : StyleMemo) :
    Message.validate sheet (node :: rest) memo =
      validateAll sheet (Message.walk (node :: rest)) memo := by
  rw [Message.validate, first, walk_cons, validateAll_cons, bind_assoc]
  simp only [validateAll_append, later]

/-- Validation is a step at each node on the walk. -/
theorem Message.validate_eq_validateAll_walk (message : Message) (memo : StyleMemo) :
    message.validate sheet memo = validateAll sheet message.walk memo := by
  induction message using Message.induct generalizing memo with
  | nil => rfl
  | literal text rest later => exact validate_cons_eq (fun memo => rfl) later memo
  | argument name rest later => exact validate_cons_eq (fun memo => rfl) later memo
  | formatted category name style rest later =>
      refine validate_cons_eq (fun memo => ?_) later memo
      exact (bind_pure _).symm
  | plural name rule offset branches rest inside later =>
      refine validate_cons_eq (fun memo => ?_) later memo
      rw [Node.validate, Node.validateAlone, Node.inside, validatePluralBranches_eq_foldlM,
        insidePluralBranches_eq_flatMap, validateAll_branches inside]
      split <;> rfl
  | select name branches rest inside later =>
      refine validate_cons_eq (fun memo => ?_) later memo
      rw [Node.validate, Node.validateAlone, Node.inside, validateSelectBranches_eq_foldlM,
        insideSelectBranches_eq_flatMap, validateAll_branches inside]
      split <;> rfl
  | pound rest later => exact validate_cons_eq (fun memo => rfl) later memo
  | tag name children rest inside later =>
      refine validate_cons_eq (fun memo => ?_) later memo
      rw [Node.validate, Node.validateAlone, Node.inside, ok_bind, inside]

end Validation

end IcuMessage
