import IcuMessage.Proofs.Message.Induction
import IcuMessage.Proofs.Pattern.TagNesting

/-!
# Messages written out as marks

A message is written out as marks by putting the two ends of each tag back around
its children (`Message.marks`).  No two messages have the same marks
(`Message.eq_of_marks_eq`).

What tokens pair to is the one message whose marks are those of the tokens, once
literals that meet are joined.  So nothing is lost, doubled, moved or put under
another tag (`tags_pair_exactly`).
-/

namespace IcuMessage

/-- A node that is no tag, or one of the two ends of a tag. -/
inductive Mark where
  | node (node : Node)
  | opening (name : String)
  | closing (name : String)

mutual

/-- A node with the ends of its tag, if it is one, around its children. -/
def Node.marks : Node → List Mark
  | .tag name children => .opening name :: (Message.marks children ++ [.closing name])
  | node => [.node node]

/-- The nodes of a message, with the ends of tags around their children. -/
def Message.marks : Message → List Mark
  | [] => []
  | node :: rest => node.marks ++ Message.marks rest

end

/-- A token without its byte offset. -/
def Token.marks : Token → List Mark
  | .node held => held.marks
  | .opening name _ => [.opening name]
  | .closing name _ => [.closing name]

/-- A token in front of others.  Literals that meet become one. -/
def joinToken : Token → List Token → List Token
  | .node (.literal text), .node (.literal next) :: rest => .node (.literal (text ++ next)) :: rest
  | token, rest => token :: rest

/-- The tokens with all literals joined that meet. -/
def joinTokens (tokens : List Token) : List Token :=
  tokens.foldr joinToken []

@[simp]
theorem Message.marks_nil : marks [] = [] := by
  rw [marks]

@[simp]
theorem Message.marks_cons (node : Node) (rest : Message) :
    marks (node :: rest) = node.marks ++ marks rest := by
  rw [marks]

/-- The marks of a tag are those of its children between its own two. -/
theorem Node.marks_tag (name : String) (children : Message) :
    (Node.tag name children).marks = .opening name :: (children.marks ++ [.closing name]) := by
  rw [marks]

@[simp]
theorem joinTokens_nil : joinTokens [] = [] := rfl

@[simp]
theorem joinTokens_cons (token : Token) (rest : List Token) :
    joinTokens (token :: rest) = joinToken token (joinTokens rest) := rfl

/-- No literal joins what stands behind a closing tag. -/
theorem joinTokens_append_closing
    (front : List Token)
    (name : String)
    (offset : Nat)
    (back : List Token) :
    joinTokens (front ++ .closing name offset :: back) =
      joinTokens front ++ .closing name offset :: joinTokens back := by
  induction front with
  | nil => rfl
  | cons token rest ih =>
      rw [List.cons_append, joinTokens_cons, ih, joinTokens_cons]
      rcases joinTokens rest with _ | ⟨first, later⟩
      · cases token with
        | node node => cases node <;> rfl
        | opening => rfl
        | closing => rfl
      · cases token with
        | node node =>
            cases first with
            | node next => cases node <;> cases next <;> rfl
            | opening => cases node <;> rfl
            | closing => cases node <;> rfl
        | opening => rfl
        | closing => rfl

/-- Literal text in front of marks. -/
def joinMark (text : String) : List Mark → List Mark
  | .node (.literal next) :: rest => .node (.literal (text ++ next)) :: rest
  | rest => .node (.literal text) :: rest

/-- Joining a literal to tokens joins its mark to theirs. -/
theorem marks_joinToken_literal (text : String) (tokens : List Token) :
    (joinToken (.node (.literal text)) tokens).flatMap Token.marks =
      joinMark text (tokens.flatMap Token.marks) := by
  rcases tokens with _ | ⟨first, rest⟩
  · rfl
  · cases first with
    | node node => cases node <;> rfl
    | opening => rfl
    | closing => rfl

theorem marks_joinNode_literal (text : String) (nodes : List Node) :
    Message.marks (joinNode (.literal text) nodes) = joinMark text (Message.marks nodes) := by
  rcases nodes with _ | ⟨first, rest⟩
  · rfl
  · cases first <;> rfl

/-- Tokens that nest have the marks of the message that they pair to. -/
theorem PairsTo.marks
    {tokens : List Token}
    {nodes : List Node}
    (pairs : PairsTo tokens nodes) :
    (joinLiterals nodes).marks = (joinTokens tokens).flatMap Token.marks := by
  induction pairs with
  | nil => rfl
  | @node node rest nodes _ ih =>
      rw [joinLiterals_cons, joinTokens_cons]
      cases node with
      | literal text => rw [marks_joinNode_literal, marks_joinToken_literal, ih]
      | _ => exact congrArg _ ih
  | @tag name start finish inner rest children nodes _ _ inside behind =>
      have opened : joinTokens (.opening name start :: (inner ++ .closing name finish :: rest)) =
          .opening name start :: (joinTokens inner ++ .closing name finish :: joinTokens rest) := by
        rw [← joinTokens_append_closing]
        rfl
      rw [joinLiterals_cons, opened]
      show Message.marks (.tag name (joinLiterals children) :: joinLiterals nodes) = _
      rw [Message.marks_cons, Node.marks_tag, inside, behind]
      simp [Token.marks]

/-! ## Messages are told apart by their marks -/

/-- The marks of some nodes end here, as the children of a tag do. -/
def MarksEnd (rest : List Mark) : Prop :=
  rest = [] ∨ ∃ name later, rest = .closing name :: later

/-- No other message has the same marks, whatever stands behind them. -/
def Message.ToldByMarks (message : Message) : Prop :=
  ∀ (other : Message) (rest otherRest : List Mark),
    MarksEnd rest → MarksEnd otherRest →
      message.marks ++ rest = other.marks ++ otherRest → message = other ∧ rest = otherRest

namespace Message.ToldByMarks

theorem nil : ToldByMarks [] := by
  intro other rest otherRest ends _ same
  cases other with
  | nil => exact ⟨rfl, same⟩
  | cons node later =>
      rcases ends with rfl | ⟨name, more, rfl⟩
      · cases node <;> simp [Node.marks] at same
      · cases node <;> simp [Node.marks] at same

theorem cons
    {node : Node}
    {later : Message}
    (single : node.marks = [.node node])
    (told : ToldByMarks later) :
    ToldByMarks (node :: later) := by
  intro other rest otherRest ends otherEnds same
  rw [marks_cons, single] at same
  cases other with
  | nil => rcases otherEnds with rfl | ⟨name, more, rfl⟩ <;> simp at same
  | cons next others =>
      have alone : node = next ∧ later.marks ++ rest = Message.marks others ++ otherRest := by
        cases next <;> simp_all [Node.marks]
      rcases told others rest otherRest ends otherEnds alone.2 with
        ⟨rfl, rfl⟩
      exact ⟨by rw [alone.1], rfl⟩

/-- A tag is told by its marks because the closing mark ends those of its children. -/
theorem tag
    {children later : Message}
    (name : String)
    (inside : ToldByMarks children)
    (told : ToldByMarks later) :
    ToldByMarks (.tag name children :: later) := by
  intro other rest otherRest ends otherEnds same
  cases other with
  | nil => rcases otherEnds with rfl | ⟨_, more, rfl⟩ <;> simp [Node.marks] at same
  | cons next others =>
      cases next with
      | tag otherName otherChildren =>
          simp only [marks_cons, Node.marks_tag, List.cons_append, List.append_assoc,
            List.cons.injEq, Mark.opening.injEq, List.nil_append] at same
          rcases same with
            ⟨rfl, same⟩
          rcases inside otherChildren _ _ (Or.inr ⟨_, _, rfl⟩) (Or.inr ⟨_, _, rfl⟩) same with
            ⟨rfl, behind⟩
          rcases told others rest otherRest ends otherEnds (List.cons.inj behind).2 with
            ⟨rfl, rfl⟩
          exact ⟨rfl, rfl⟩
      | _ => simp [Node.marks] at same

end Message.ToldByMarks

/-- Every message is told by its marks, whatever marks stand behind. -/
theorem Message.toldByMarks (message : Message) : message.ToldByMarks := by
  induction message using Message.induct with
  | nil => exact .nil
  | literal text rest later => exact later.cons (by rw [Node.marks]; simp)
  | argument name rest later => exact later.cons (by rw [Node.marks]; simp)
  | formatted category name style rest later => exact later.cons (by rw [Node.marks]; simp)
  | plural name rule offset branches rest _ later => exact later.cons (by rw [Node.marks]; simp)
  | select name branches rest _ later => exact later.cons (by rw [Node.marks]; simp)
  | pound rest later => exact later.cons (by rw [Node.marks]; simp)
  | tag name children rest inside later => exact .tag name inside later

/-- No two messages have the same marks. -/
theorem Message.eq_of_marks_eq
    {message other : Message}
    (same : message.marks = other.marks) :
    message = other :=
  (message.toldByMarks other [] [] (Or.inl rfl) (Or.inl rfl) (by rw [same])).1

/-- Tokens pair to the message that has their marks, once their literals are joined. -/
theorem assemble_eq_ok_iff
    {tokens : List Token}
    {message : Message} :
    assemble tokens = .ok message ↔
      TagsNest tokens ∧ message.marks = (joinTokens tokens).flatMap Token.marks := by
  constructor
  · intro paired
    have nested := exists_assemble_eq_ok_iff.mp ⟨message, paired⟩
    rcases nested.exists_pairsTo with
      ⟨nodes, pairs⟩
    rw [pairs.assemble] at paired
    cases paired
    exact ⟨nested, pairs.marks⟩
  · rintro ⟨nested, same⟩
    rcases nested.exists_pairsTo with
      ⟨nodes, pairs⟩
    rw [pairs.assemble, Message.eq_of_marks_eq (pairs.marks.trans same.symm)]

/-- Pairing succeeds on the tokens whose tags nest with equal names, and on no
others.  It gives the one message whose marks are those of the tokens with literals
joined.  Otherwise it reports the first closing tag that has no open tag or differs
from the innermost one, or else the innermost tag that is still open. -/
theorem tags_pair_exactly (tokens : List Token) :
    ((∃ message, assemble tokens = .ok message) ↔ TagsNest tokens) ∧
    (∀ message : Message,
      assemble tokens = .ok message ↔
        TagsNest tokens ∧ message.marks = (joinTokens tokens).flatMap Token.marks) ∧
    (∀ error, assemble tokens = .error error ↔ TagFault tokens error) :=
  ⟨exists_assemble_eq_ok_iff, fun _ => assemble_eq_ok_iff, fun _ => assemble_eq_error_iff⟩

end IcuMessage
