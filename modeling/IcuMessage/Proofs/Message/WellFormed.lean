import IcuMessage.Pattern.TagTree
import IcuMessage.Proofs.Message.Printable
import Mathlib.Data.List.Chain

/-!
# Well-formed messages

What one may rely on in the message of a pattern, at every depth: literals are
filled and never neighbours, names are names, a plural is not offset by a
negative number, and a plural and a select have a branch for every value.

The lists of nodes that are built on the way are kept in reverse, and joining
literals in them keeps neighbouring literals out
(`Message.WellFormed.appendNode`).
-/

namespace IcuMessage

/-- The node is literal text. -/
def Node.IsLiteral (node : Node) : Prop :=
  ∃ text, node = .literal text

/-- No two literals are neighbours. -/
def Message.LiteralsApart (message : Message) : Prop :=
  message.IsChain fun left right => ¬ (left.IsLiteral ∧ right.IsLiteral)

/-- A named style has a name, and the name does not look like a skeleton. -/
def Style.WellFormed : Style → Prop
  | .named name => name ≠ "" ∧ ¬ [':', ':'] <+: name.toList
  | .skeleton _ => True

/-- A node that a pattern can denote; there are tags only where they count. -/
inductive Node.WellFormed (ignoreTags : Bool) : Node → Prop where
  | literal {text : String}
      (filled : text ≠ "") :
      WellFormed ignoreTags (.literal text)
  | argument {name : String}
      (named : IsName name.toList) :
      WellFormed ignoreTags (.argument name)
  | formatted {category : Category} {name : String} {style : Option Style}
      (named : IsName name.toList)
      (styled : ∀ given, style = some given → given.WellFormed) :
      WellFormed ignoreTags (.formatted category name style)
  | plural {name : String} {rule : PluralRule} {offset : Int64}
      {branches : List (PluralKey × Message)}
      (named : IsName name.toList)
      (shifted : 0 ≤ offset.toInt)
      (other : (branches.lookup .other).isSome)
      (apart : ∀ branch ∈ branches, Message.LiteralsApart branch.2)
      (inside : ∀ branch ∈ branches, ∀ node ∈ branch.2, WellFormed ignoreTags node) :
      WellFormed ignoreTags (.plural name rule offset branches)
  | select {name : String} {branches : List (String × Message)}
      (named : IsName name.toList)
      (other : (branches.lookup otherKey).isSome)
      (apart : ∀ branch ∈ branches, Message.LiteralsApart branch.2)
      (inside : ∀ branch ∈ branches, ∀ node ∈ branch.2, WellFormed ignoreTags node) :
      WellFormed ignoreTags (.select name branches)
  | pound : WellFormed ignoreTags .pound
  | tag {name : String} {children : Message}
      (heeded : ignoreTags = false)
      (named : IsTagName name.toList)
      (apart : Message.LiteralsApart children)
      (inside : ∀ node ∈ children, WellFormed ignoreTags node) :
      WellFormed ignoreTags (.tag name children)

/-- A message that a pattern can denote, but for its free number signs. -/
structure Message.WellFormed (ignoreTags : Bool) (message : Message) : Prop where
  apart : message.LiteralsApart
  nodes : ∀ node ∈ message, node.WellFormed ignoreTags

namespace Message

variable {ignoreTags : Bool} {node : Node} {before : List Node}

theorem literalsApart_reverse_iff : LiteralsApart before.reverse ↔ LiteralsApart before := by
  rw [LiteralsApart, List.isChain_reverse, LiteralsApart]
  simp only [and_comm]

namespace WellFormed

theorem nil : WellFormed ignoreTags [] :=
  ⟨List.isChain_nil, by simp⟩

theorem reverse (wellFormed : WellFormed ignoreTags before) :
    WellFormed ignoreTags before.reverse :=
  ⟨literalsApart_reverse_iff.mpr wellFormed.apart, by simpa using wellFormed.nodes⟩

theorem cons
    (nodeFormed : node.WellFormed ignoreTags)
    (beforeFormed : WellFormed ignoreTags before)
    (apart : ∀ neighbour ∈ before.head?, ¬ (node.IsLiteral ∧ neighbour.IsLiteral)) :
    WellFormed ignoreTags (node :: before) :=
  ⟨List.isChain_cons.mpr ⟨apart, beforeFormed.apart⟩,
    List.forall_mem_cons.mpr ⟨nodeFormed, beforeFormed.nodes⟩⟩

/-- Joining a literal to the one before it keeps literals apart. -/
theorem appendNode
    (nodeFormed : node.WellFormed ignoreTags)
    (beforeFormed : WellFormed ignoreTags before) :
    WellFormed ignoreTags (appendNode node before) := by
  rw [IcuMessage.appendNode.eq_def]
  split
  case h_1 last rest =>
    split
    case h_1 text =>
      rcases List.forall_mem_cons.mp beforeFormed.nodes with
        ⟨_, restFormed⟩
      rcases List.isChain_cons.mp beforeFormed.apart with
        ⟨lastApart, restApart⟩
      cases nodeFormed with
      | literal filled =>
          refine cons (.literal ?_) ⟨restApart, restFormed⟩ ?_
          · simpa using fun _ => filled
          · rintro neighbour first ⟨_, literal⟩
            exact lastApart neighbour first ⟨⟨last, rfl⟩, literal⟩
    case h_2 noLiteral =>
      refine cons nodeFormed beforeFormed ?_
      rintro _ _ ⟨⟨text, rfl⟩, _⟩
      exact noLiteral text rfl
  case h_2 noLiteral =>
    refine cons nodeFormed beforeFormed ?_
    rintro _ first ⟨_, ⟨text, rfl⟩⟩
    rcases List.head?_eq_some_iff.mp first with
      ⟨rest, rfl⟩
    exact noLiteral text rest rfl

theorem tag
    {name : String}
    {inner : List Node}
    (heeded : ignoreTags = false)
    (named : IsTagName name.toList)
    (innerFormed : WellFormed ignoreTags inner)
    (beforeFormed : WellFormed ignoreTags before) :
    WellFormed ignoreTags (.tag name inner.reverse :: before) := by
  have children := innerFormed.reverse
  refine cons (.tag heeded named children.apart children.nodes) beforeFormed ?_
  rintro _ _ ⟨⟨text, impossible⟩, _⟩
  cases impossible

end WellFormed

end Message

end IcuMessage
