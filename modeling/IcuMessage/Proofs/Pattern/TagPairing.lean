import IcuMessage.Pattern.TagTree
import IcuMessage.Proofs.Message.Printable

/-!
# Pairing the tags of a message

The tokens of a message pair to the message inside whatever tags are open, as
long as its first literal does not meet a literal in front of it.

What pairing makes of any tokens is said by an invariant of the nodes that it
keeps in reverse (`PairingKeeps`).
-/

namespace IcuMessage

/-- Wherever tokens are met, they add the nodes of a message. -/
def Assembles (tokens : List Token) (message : Message) : Prop :=
  ∀ stack current more,
    (message.StartsWithLiteral → ¬ Message.StartsWithLiteral current) →
      assembleFrom stack current (tokens ++ more) =
        assembleFrom stack (message.reverse ++ current) more

/-- A node that is no literal behind a literal is added as it is. -/
theorem appendNode_of_apart
    {node : Node}
    {before : List Node}
    (apart : Message.StartsWithLiteral [node] → ¬ Message.StartsWithLiteral before) :
    appendNode node before = node :: before := by
  rw [appendNode.eq_def]
  split
  · split
    · exact absurd trivial (apart trivial)
    · rfl
  · rfl

namespace Assembles

theorem nil : Assembles [] [] :=
  fun _ _ _ _ => rfl

/-- A node that no literal behind it would join. -/
theorem node
    {node : Node}
    {tokens : List Token}
    {rest : Message}
    (apart : rest.StartsWithLiteral → ¬ Message.StartsWithLiteral [node])
    (later : Assembles tokens rest) :
    Assembles (.node node :: tokens) (node :: rest) := by
  intro stack current more before
  have kept : appendNode node current = node :: current := by
    apply appendNode_of_apart
    cases node <;> exact before
  have behind : rest.StartsWithLiteral → ¬ Message.StartsWithLiteral (node :: current) := by
    cases node <;> exact apart
  rw [List.cons_append, assembleFrom, kept, later stack (node :: current) more behind,
    List.reverse_cons, List.append_assoc]
  rfl

/-- Tokens between an opening tag and its closing tag are its children. -/
theorem tag
    (name : String)
    (start finish : Nat)
    {inner tokens : List Token}
    {children rest : Message}
    (inside : Assembles inner children)
    (later : Assembles tokens rest) :
    Assembles (.opening name start :: (inner ++ .closing name finish :: tokens))
      (.tag name children :: rest) := by
  intro stack current more _
  have filled := inside (⟨name, start, current⟩ :: stack) []
    (.closing name finish :: (tokens ++ more)) (fun _ => id)
  rw [List.append_nil] at filled
  rw [List.cons_append, List.append_assoc, List.cons_append, assembleFrom, filled, assembleFrom]
  simp only [if_true, List.reverse_reverse]
  rw [later stack (.tag name children :: current) more (fun _ => id), List.reverse_cons,
    List.append_assoc]
  rfl

/-- Tokens that add the nodes of a message are paired to just this message. -/
theorem assemble
    {tokens : List Token}
    {message : Message}
    (assembles : Assembles tokens message) :
    assemble tokens = .ok message := by
  have whole := assembles [] [] [] (fun _ => id)
  rw [List.append_nil, List.append_nil] at whole
  rw [IcuMessage.assemble, whole, assembleFrom, List.reverse_reverse]

end Assembles

/-- A property of nodes that are kept in reverse passes along sound tokens. -/
structure PairingKeeps (sound : Token → Prop) (good : List Node → Prop) : Prop where
  nil : good []
  node : ∀ node before, sound (.node node) → good before → good (appendNode node before)
  tag : ∀ name offset inner before,
    sound (.closing name offset) → good inner → good before →
      good (.tag name inner.reverse :: before)

namespace PairingKeeps

variable
    {sound : Token → Prop}
    {good : List Node → Prop}
    {tokens : List Token}
    {message : Message}

/-- Whatever tokens keep step by step holds of the paired message. -/
theorem assembleFrom
    (keeps : PairingKeeps sound good)
    {stack : List OpenTag}
    {current : List Node}
    (assembled : assembleFrom stack current tokens = .ok message)
    (outerGood : ∀ opened ∈ stack, good opened.before)
    (currentGood : good current)
    (tokensSound : ∀ token ∈ tokens, sound token) :
    good message.reverse := by
  induction tokens generalizing stack current with
  | nil =>
      rw [IcuMessage.assembleFrom.eq_def] at assembled
      cases stack with
      | nil =>
          cases assembled
          rwa [List.reverse_reverse]
      | cons innermost outer => cases assembled
  | cons token rest ih =>
      rcases List.forall_mem_cons.mp tokensSound with
        ⟨here, later⟩
      cases token with
      | node node =>
          rw [IcuMessage.assembleFrom] at assembled
          exact ih assembled outerGood (keeps.node node current here currentGood) later
      | opening name offset =>
          rw [IcuMessage.assembleFrom] at assembled
          exact ih assembled (List.forall_mem_cons.mpr ⟨currentGood, outerGood⟩) keeps.nil later
      | closing name offset =>
          cases stack with
          | nil => cases assembled
          | cons innermost outer =>
              rcases List.forall_mem_cons.mp outerGood with
                ⟨innermostGood, outerGood⟩
              rw [IcuMessage.assembleFrom] at assembled
              split at assembled
              case isFalse => cases assembled
              case isTrue =>
                have closed := keeps.tag name offset _ _ here currentGood innermostGood
                exact ih assembled outerGood closed later

theorem assemble
    (keeps : PairingKeeps sound good)
    (assembled : assemble tokens = .ok message)
    (tokensSound : ∀ token ∈ tokens, sound token) :
    good message.reverse :=
  keeps.assembleFrom assembled (by simp) keeps.nil tokensSound

end PairingKeeps

end IcuMessage
