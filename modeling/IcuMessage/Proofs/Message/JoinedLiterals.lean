import IcuMessage.Pattern.TagTree
import IcuMessage.Proofs.Outcome

/-!
# Messages up to the joining of literals

Literals that meet in the tokens of a pattern become one.  Two lists of nodes
are alike if no context tells them apart once literals are joined.  What runs
through the nodes of a message from left to right, and takes two literals as it
takes the one that they make up, does not see whether literals are joined
(`foldlM_joinLiterals`).
-/

namespace IcuMessage

/-- Nodes from left to right behind others, the last one first. -/
def appendNodes (nodes before : List Node) : List Node :=
  nodes.foldl (fun before node => appendNode node before) before

/-- The nodes with all literals joined that meet. -/
def joinLiterals (nodes : List Node) : Message :=
  (appendNodes nodes []).reverse

@[simp]
theorem appendNodes_nil (before : List Node) : appendNodes [] before = before := rfl

@[simp]
theorem appendNodes_cons (node : Node) (nodes before : List Node) :
    appendNodes (node :: nodes) before = appendNodes nodes (appendNode node before) := rfl

@[simp]
theorem appendNodes_append (front back before : List Node) :
    appendNodes (front ++ back) before = appendNodes back (appendNodes front before) :=
  List.foldl_append

/-- Two literals that are added in a row are one literal. -/
theorem appendNode_literal_literal (first second : String) (before : List Node) :
    appendNode (.literal second) (appendNode (.literal first) before) =
      appendNode (.literal (first ++ second)) before := by
  rcases before with _ | ⟨node, rest⟩
  · rfl
  · cases node <;> simp [appendNode, String.append_assoc]

/-- A node in front of others.  Literals that meet become one. -/
def joinNode : Node → List Node → List Node
  | .literal text, .literal next :: rest => .literal (text ++ next) :: rest
  | node, rest => node :: rest

/-- Behind a node that is no literal, a node is added as it is. -/
theorem appendNode_of_not_literal
    {last : Node}
    (other : ∀ text, last ≠ .literal text)
    (node : Node)
    (before : List Node) :
    appendNode node (last :: before) = node :: last :: before := by
  cases last with
  | literal text => exact absurd rfl (other text)
  | _ => rfl

theorem appendNode_not_literal
    {node : Node}
    (other : ∀ text, node ≠ .literal text)
    (before : List Node) :
    appendNode node before = node :: before := by
  rcases before with _ | ⟨last, rest⟩
  · rfl
  · cases last with
    | literal text =>
        cases node with
        | literal next => exact absurd rfl (other next)
        | _ => rfl
    | _ => rfl

theorem exists_literal_or_not (node : Node) :
    (∃ text, node = .literal text) ∨ ∀ text, node ≠ .literal text := by
  cases node with
  | literal text => exact Or.inl ⟨text, rfl⟩
  | _ => exact Or.inr nofun

/-- Appending has to do with the last node only. -/
theorem appendNodes_cons_append (nodes : List Node) (last : Node) (before front : List Node) :
    appendNodes nodes (last :: before ++ front) =
      appendNodes nodes (last :: before) ++ front := by
  induction nodes generalizing last before with
  | nil => rfl
  | cons node rest ih =>
      rw [appendNodes_cons, appendNodes_cons]
      rcases exists_literal_or_not last with ⟨text, rfl⟩ | other
      · rcases exists_literal_or_not node with ⟨next, rfl⟩ | other
        · exact ih (.literal (text ++ next)) before
        · rw [appendNode_not_literal other, appendNode_not_literal other]
          exact ih node (.literal text :: before)
      · rw [List.cons_append, appendNode_of_not_literal other, appendNode_of_not_literal other]
        exact ih node (last :: before)

/-- Whatever the text of a literal at the beginning is, the same text joins it. -/
theorem exists_appendNodes_literal (nodes : List Node) :
    ∃ others more, ∀ text,
      appendNodes nodes [.literal text] = others ++ [.literal (text ++ more)] := by
  induction nodes with
  | nil => exact ⟨[], "", fun text => by simp⟩
  | cons node rest ih =>
      rcases exists_literal_or_not node with ⟨next, rfl⟩ | other
      · rcases ih with
          ⟨others, more, joined⟩
        refine ⟨others, next ++ more, fun text => ?_⟩
        rw [← String.append_assoc, ← joined]
        rfl
      · refine ⟨appendNodes rest [node], "", fun text => ?_⟩
        rw [appendNodes_cons, appendNode_not_literal other, String.append_empty]
        exact appendNodes_cons_append rest node [] [.literal text]

theorem joinLiterals_cons_of_apart
    {node next : Node}
    (apart : appendNode next [node] = [next, node])
    (rest : List Node) :
    joinLiterals (node :: next :: rest) = node :: joinLiterals (next :: rest) := by
  have behind : joinLiterals (next :: rest) = (appendNodes rest [next]).reverse := rfl
  have kept : appendNodes (node :: next :: rest) [] = appendNodes rest ([next] ++ [node]) := by
    rw [List.singleton_append, ← apart]
    rfl
  rw [joinLiterals, kept, appendNodes_cons_append, List.reverse_append, behind]
  rfl

/-- A node that is no literal is joined to nothing. -/
theorem joinLiterals_cons_of_not_literal
    {node : Node}
    (other : ∀ text, node ≠ .literal text)
    (nodes : List Node) :
    joinLiterals (node :: nodes) = node :: joinLiterals nodes := by
  cases nodes with
  | nil => rfl
  | cons next rest =>
      exact joinLiterals_cons_of_apart (appendNode_of_not_literal other next []) rest

/-- Literals may be joined from the last node on as well. -/
theorem joinLiterals_cons (node : Node) (nodes : List Node) :
    joinLiterals (node :: nodes) = joinNode node (joinLiterals nodes) := by
  rcases exists_literal_or_not node with ⟨text, rfl⟩ | other
  · cases nodes with
    | nil => rfl
    | cons next rest =>
        rcases exists_literal_or_not next with ⟨following, rfl⟩ | other
        · rcases exists_appendNodes_literal rest with
            ⟨others, more, joined⟩
          have both : joinLiterals (.literal text :: .literal following :: rest) =
              (appendNodes rest [.literal (text ++ following)]).reverse := rfl
          have second : joinLiterals (.literal following :: rest) =
              (appendNodes rest [.literal following]).reverse := rfl
          rw [both, second, joined, joined]
          simp [joinNode, String.append_assoc]
        · rw [joinLiterals_cons_of_apart (appendNode_not_literal other _),
            joinLiterals_cons_of_not_literal other]
          cases next with
          | literal following => exact absurd rfl (other following)
          | _ => rfl
  · rw [joinLiterals_cons_of_not_literal other]
    cases node with
    | literal text => exact absurd rfl (other text)
    | _ => rfl

/-- Behind any nodes, two lists of nodes come to the same when literals are joined. -/
def Alike (left right : List Node) : Prop :=
  ∀ before, appendNodes left before = appendNodes right before

namespace Alike

variable {left right other : List Node}

theorem refl (nodes : List Node) : Alike nodes nodes :=
  fun _ => rfl

theorem symm (alike : Alike left right) : Alike right left :=
  fun before => (alike before).symm

theorem trans (first : Alike left right) (second : Alike right other) : Alike left other :=
  fun before => (first before).trans (second before)

theorem append
    {front back : List Node}
    (fronts : Alike left front)
    (backs : Alike right back) :
    Alike (left ++ right) (front ++ back) := by
  intro before
  rw [appendNodes_append, appendNodes_append, fronts before, backs]

theorem cons (node : Node) (alike : Alike left right) : Alike (node :: left) (node :: right) :=
  append (refl [node]) alike

/-- Nodes that are alike are the same once their literals are joined. -/
theorem joinLiterals_eq (alike : Alike left right) :
    joinLiterals left = joinLiterals right := by
  rw [joinLiterals, alike, joinLiterals]

end Alike

/-- Two literals in a row are like their joined text. -/
theorem alike_literal_literal (first second : String) :
    Alike [.literal first, .literal second] [.literal (first ++ second)] :=
  appendNode_literal_literal first second

/-- Tokens without tags are joined to a message. -/
theorem assemble_nodes (nodes : List Node) :
    assemble (nodes.map Token.node) = .ok (joinLiterals nodes) := by
  have behind : ∀ before,
      assembleFrom [] before (nodes.map Token.node) = .ok (appendNodes nodes before).reverse := by
    induction nodes with
    | nil =>
        intro before
        rw [List.map_nil, assembleFrom.eq_def]
        rfl
    | cons node rest ih =>
        intro before
        rw [List.map_cons, assembleFrom, ih, appendNodes_cons]
  exact behind []

section Running

variable {σ ε : Type} {step : σ → Node → Except ε σ}

/-- A run takes two literals in a row as it takes the literal that they make up. -/
def MergesLiterals (step : σ → Node → Except ε σ) : Prop :=
  ∀ state first second,
    (step state (.literal first) >>= fun further => step further (.literal second)) =
      step state (.literal (first ++ second))

/-- Where literals merge, joining one to the node before it makes no difference. -/
theorem foldlM_reverse_appendNode
    (merges : MergesLiterals step)
    (node : Node)
    (before : List Node)
    (state : σ) :
    (appendNode node before).reverse.foldlM step state =
      (before.reverse ++ [node]).foldlM step state := by
  unfold appendNode
  split
  case h_1 last rest =>
    split
    case h_1 text =>
      have joined : ∀ state,
          (step state (.literal last) >>= fun further => step further (.literal text)) =
            step state (.literal (last ++ text)) :=
        fun state => merges state last text
      simp only [List.reverse_cons, List.append_assoc, List.foldlM_append, List.foldlM_cons,
        List.foldlM_nil, bind_pure, List.cons_append, List.nil_append, joined]
    case h_2 => rw [List.reverse_cons]
  case h_2 => rw [List.reverse_cons]

/-- A run does not see whether literals are joined. -/
theorem foldlM_joinLiterals
    (merges : MergesLiterals step)
    (nodes : List Node)
    (state : σ) :
    (joinLiterals nodes).foldlM step state = nodes.foldlM step state := by
  have behind : ∀ before,
      (appendNodes nodes before).reverse.foldlM step state =
        (before.reverse ++ nodes).foldlM step state := by
    induction nodes with
    | nil =>
        intro before
        rw [appendNodes_nil, List.append_nil]
    | cons node rest ih =>
        intro before
        rw [appendNodes_cons, ih, List.foldlM_append, foldlM_reverse_appendNode merges,
          ← List.foldlM_append]
        simp
  exact behind []

end Running

end IcuMessage
