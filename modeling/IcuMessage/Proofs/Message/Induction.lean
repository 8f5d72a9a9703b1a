import IcuMessage.Message.Basic

/-!
# Induction on messages

Messages nest through the branches of plurals and selects and through the
children of tags.  `Message.induct` packages the nested recursion once: a
property of messages holds if it passes from the rest of a message to the
whole of it, where it may be assumed of every message inside the first node.
-/

namespace IcuMessage

/-- A property passes from the rest of a message, and from the messages inside
the first node, to the message. -/
structure Message.Inherits (motive : Message → Prop) : Prop where
  nil : motive []
  literal : ∀ text rest, motive rest → motive (.literal text :: rest)
  argument : ∀ name rest, motive rest → motive (.argument name :: rest)
  formatted : ∀ category name style rest,
    motive rest → motive (.formatted category name style :: rest)
  plural : ∀ name rule offset (branches : List (PluralKey × Message)) rest,
    (∀ branch ∈ branches, motive branch.2) →
      motive rest → motive (.plural name rule offset branches :: rest)
  select : ∀ name (branches : List (String × Message)) rest,
    (∀ branch ∈ branches, motive branch.2) →
      motive rest → motive (.select name branches :: rest)
  pound : ∀ rest, motive rest → motive (.pound :: rest)
  tag : ∀ name children rest,
    motive children → motive rest → motive (.tag name children :: rest)

mutual

private theorem Message.Inherits.node
    {motive : Message → Prop} (inherits : Message.Inherits motive) :
    (node : Node) → ∀ rest, motive rest → motive (node :: rest)
  | .literal text => inherits.literal text
  | .argument name => inherits.argument name
  | .formatted category name style => inherits.formatted category name style
  | .plural name rule offset branches => fun rest =>
      inherits.plural name rule offset branches rest (inherits.pluralBranches branches)
  | .select name branches => fun rest =>
      inherits.select name branches rest (inherits.selectBranches branches)
  | .pound => inherits.pound
  | .tag name children => fun rest =>
      inherits.tag name children rest (inherits.message children)

private theorem Message.Inherits.message
    {motive : Message → Prop} (inherits : Message.Inherits motive) :
    (message : List Node) → motive message
  | [] => inherits.nil
  | node :: rest => inherits.node node rest (inherits.message rest)

private theorem Message.Inherits.pluralBranches
    {motive : Message → Prop} (inherits : Message.Inherits motive) :
    (branches : List (PluralKey × List Node)) → ∀ branch ∈ branches, motive branch.2
  | [] => fun _ member => nomatch member
  | (_, body) :: rest => fun branch member =>
      match List.mem_cons.mp member with
      | .inl first => first ▸ inherits.message body
      | .inr later => inherits.pluralBranches rest branch later

private theorem Message.Inherits.selectBranches
    {motive : Message → Prop} (inherits : Message.Inherits motive) :
    (branches : List (String × List Node)) → ∀ branch ∈ branches, motive branch.2
  | [] => fun _ member => nomatch member
  | (_, body) :: rest => fun branch member =>
      match List.mem_cons.mp member with
      | .inl first => first ▸ inherits.message body
      | .inr later => inherits.selectBranches rest branch later

end

/-- Induction on a message from its end, with the messages inside each node. -/
@[elab_as_elim]
theorem Message.induct {motive : Message → Prop}
    (nil : motive [])
    (literal : ∀ text rest, motive rest → motive (.literal text :: rest))
    (argument : ∀ name rest, motive rest → motive (.argument name :: rest))
    (formatted : ∀ category name style rest,
      motive rest → motive (.formatted category name style :: rest))
    (plural : ∀ name rule offset (branches : List (PluralKey × Message)) rest,
      (∀ branch ∈ branches, motive branch.2) →
        motive rest → motive (.plural name rule offset branches :: rest))
    (select : ∀ name (branches : List (String × Message)) rest,
      (∀ branch ∈ branches, motive branch.2) →
        motive rest → motive (.select name branches :: rest))
    (pound : ∀ rest, motive rest → motive (.pound :: rest))
    (tag : ∀ name children rest,
      motive children → motive rest → motive (.tag name children :: rest))
    (message : Message) : motive message :=
  Message.Inherits.message
    ⟨nil, literal, argument, formatted, plural, select, pound, tag⟩ message

end IcuMessage
