import IcuMessage.Message.Basic

/-!
# Equality of messages

Messages nest through lists of branches, so their equality is decided by a
comparison that recurses into branches and children.  The main statement is
`Message.agree_iff`: the comparison answers `true` exactly on equal messages.
-/

namespace IcuMessage

mutual

/-- Compare two nodes. -/
def Node.agree : Node → Node → Bool
  | .literal left, .literal right => left == right
  | .argument left, .argument right => left == right
  | .formatted leftCategory leftName leftStyle, .formatted rightCategory rightName rightStyle =>
      leftCategory == rightCategory && leftName == rightName && leftStyle == rightStyle
  | .plural leftName leftRule leftOffset left, .plural rightName rightRule rightOffset right =>
      leftName == rightName && leftRule == rightRule && leftOffset == rightOffset &&
        pluralBranchesAgree left right
  | .select leftName left, .select rightName right =>
      leftName == rightName && selectBranchesAgree left right
  | .pound, .pound => true
  | .tag leftName left, .tag rightName right =>
      leftName == rightName && Message.agree left right
  | _, _ => false

/-- Compare two messages node by node. -/
def Message.agree : Message → Message → Bool
  | [], [] => true
  | left :: leftRest, right :: rightRest =>
      left.agree right && Message.agree leftRest rightRest
  | _, _ => false

/-- Compare the branches of two plural arguments. -/
def pluralBranchesAgree :
    List (PluralKey × List Node) → List (PluralKey × List Node) → Bool
  | [], [] => true
  | (leftKey, left) :: leftRest, (rightKey, right) :: rightRest =>
      leftKey == rightKey && Message.agree left right && pluralBranchesAgree leftRest rightRest
  | _, _ => false

/-- Compare the branches of two select arguments. -/
def selectBranchesAgree :
    List (String × List Node) → List (String × List Node) → Bool
  | [], [] => true
  | (leftKey, left) :: leftRest, (rightKey, right) :: rightRest =>
      leftKey == rightKey && Message.agree left right && selectBranchesAgree leftRest rightRest
  | _, _ => false

end

mutual

theorem Node.agree_iff : (left right : Node) → (left.agree right = true ↔ left = right)
  | .literal _, right => by cases right <;> simp [Node.agree]
  | .argument _, right => by cases right <;> simp [Node.agree]
  | .formatted _ _ _, right => by cases right <;> simp [Node.agree, and_assoc]
  | .plural _ _ _ left, right => by
      cases right <;> simp [Node.agree, pluralBranchesAgree_iff left, and_assoc]
  | .select _ left, right => by
      cases right <;> simp [Node.agree, selectBranchesAgree_iff left]
  | .pound, right => by cases right <;> simp [Node.agree]
  | .tag _ left, right => by
      cases right <;> simp [Node.agree, Message.agree_iff left]

/-- Messages agree exactly if they are the same. -/
theorem Message.agree_iff :
    (left right : List Node) → (Message.agree left right = true ↔ left = right)
  | [], right => by cases right <;> simp [Message.agree]
  | node :: rest, right => by
      cases right <;> simp [Message.agree, Node.agree_iff node, Message.agree_iff rest]

theorem pluralBranchesAgree_iff :
    (left right : List (PluralKey × List Node)) →
      (pluralBranchesAgree left right = true ↔ left = right)
  | [], [] => by simp [pluralBranchesAgree]
  | [], _ :: _ => by simp [pluralBranchesAgree]
  | _ :: _, [] => by simp [pluralBranchesAgree]
  | (_, body) :: rest, (_, _) :: _ => by
      simp [pluralBranchesAgree, Message.agree_iff body, pluralBranchesAgree_iff rest, and_assoc]

theorem selectBranchesAgree_iff :
    (left right : List (String × List Node)) →
      (selectBranchesAgree left right = true ↔ left = right)
  | [], [] => by simp [selectBranchesAgree]
  | [], _ :: _ => by simp [selectBranchesAgree]
  | _ :: _, [] => by simp [selectBranchesAgree]
  | (_, body) :: rest, (_, _) :: _ => by
      simp [selectBranchesAgree, Message.agree_iff body, selectBranchesAgree_iff rest, and_assoc]

end

instance : DecidableEq Node := fun left right =>
  decidable_of_iff _ (Node.agree_iff left right)

end IcuMessage
