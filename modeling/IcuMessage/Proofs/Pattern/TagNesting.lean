import IcuMessage.Proofs.Message.JoinedLiterals
import IcuMessage.Proofs.Pattern.TagPairing
import Mathlib.Data.List.Induction

/-!
# Tags and their partners

Tokens nest if every tag in them has a partner of the same name (`TagsNest`).  What
nests is cut away from tokens to find the tags that they leave open
(`LeavesOpen`), and these say which closing tags go wrong (`TagFault`).

The main statements are that pairing succeeds on the tokens that nest and on no
others (`exists_assemble_eq_ok_iff`), and that it reports the fault of all others
(`assemble_eq_error_iff`).
-/

namespace IcuMessage

/-! ## Tokens that nest -/

/-- Every tag of the tokens has its partner, with the same name, in them. -/
inductive TagsNest : List Token → Prop where
  | nil : TagsNest []
  | node {node : Node} {rest : List Token}
      (behind : TagsNest rest) :
      TagsNest (.node node :: rest)
  | tag {name : String} {start finish : Nat} {inner rest : List Token}
      (inside : TagsNest inner)
      (behind : TagsNest rest) :
      TagsNest (.opening name start :: (inner ++ .closing name finish :: rest))

theorem TagsNest.append
    {front back : List Token}
    (first : TagsNest front)
    (second : TagsNest back) :
    TagsNest (front ++ back) := by
  induction first with
  | nil => exact second
  | node _ ih => exact .node ih
  | tag inside _ _ ih =>
      rw [List.cons_append, List.append_assoc, List.cons_append]
      exact .tag inside ih

/-- The names and byte offsets of the tags that tokens leave open, the innermost
first.  All other tags of the tokens have their partners in them. -/
inductive LeavesOpen : List Token → List (String × Nat) → Prop where
  | nest {tokens : List Token}
      (nested : TagsNest tokens) :
      LeavesOpen tokens []
  | opening {before inner : List Token} {opened : List (String × Nat)} {name : String}
      {offset : Nat}
      (outer : LeavesOpen before opened)
      (nested : TagsNest inner) :
      LeavesOpen (before ++ .opening name offset :: inner) ((name, offset) :: opened)

/-- Every closing tag of the tokens closes the innermost tag that is open there. -/
def ClosingsMatch (tokens : List Token) : Prop :=
  ∀ before name offset after, tokens = before ++ .closing name offset :: after →
    ∃ start outer, LeavesOpen before ((name, start) :: outer)

/-- What is wrong with tokens that do not nest: the first closing tag that has no
open tag in front of it or differs from the innermost one, or, if there is no such
closing tag, the innermost tag that is still open at the end. -/
inductive TagFault (tokens : List Token) : PatternError → Prop where
  | unmatched {before after : List Token} {name : String} {offset : Nat}
      (here : tokens = before ++ .closing name offset :: after)
      (first : ClosingsMatch before)
      (nothingOpen : LeavesOpen before []) :
      TagFault tokens ⟨.unmatchedClosingTag name, offset⟩
  | mismatched {before after : List Token} {name innermost : String} {offset start : Nat}
      {outer : List (String × Nat)}
      (here : tokens = before ++ .closing name offset :: after)
      (first : ClosingsMatch before)
      (opened : LeavesOpen before ((innermost, start) :: outer))
      (differs : innermost ≠ name) :
      TagFault tokens ⟨.mismatchedClosingTag name innermost, offset⟩
  | unclosed {name : String} {offset : Nat} {outer : List (String × Nat)}
      (first : ClosingsMatch tokens)
      (opened : LeavesOpen tokens ((name, offset) :: outer)) :
      TagFault tokens ⟨.unclosedTag name, offset⟩

namespace LeavesOpen

variable {tokens more : List Token} {opened : List (String × Nat)}

/-- Tokens that nest leave open what was open before them. -/
theorem append
    (leaves : LeavesOpen tokens opened)
    (nested : TagsNest more) :
    LeavesOpen (tokens ++ more) opened := by
  cases leaves with
  | nest first => exact .nest (first.append nested)
  | opening outer inner =>
      rw [List.append_assoc, List.cons_append]
      exact .opening outer (inner.append nested)

/-- A closing tag takes its partner from the open tags. -/
theorem closing
    {name : String}
    {start : Nat}
    (leaves : LeavesOpen tokens ((name, start) :: opened))
    (finish : Nat) :
    LeavesOpen (tokens ++ [.closing name finish]) opened := by
  cases leaves with
  | @opening before inner _ _ _ outer nested =>
      rw [List.append_assoc, List.cons_append]
      exact outer.append (.tag nested .nil)

end LeavesOpen

namespace ClosingsMatch

variable {tokens : List Token} {token : Token}

/-- One more token is fine if it is no closing tag or closes the innermost open one. -/
theorem concat
    (matched : ClosingsMatch tokens)
    (last : ∀ name offset, token = .closing name offset →
      ∃ start outer, LeavesOpen tokens ((name, start) :: outer)) :
    ClosingsMatch (tokens ++ [token]) := by
  intro before name offset after same
  rcases List.eq_nil_or_concat after with rfl | ⟨front, final, rfl⟩
  · rcases List.append_inj' same rfl with
      ⟨rfl, closes⟩
    exact last name offset (List.cons.inj closes).1
  · rw [List.concat_eq_append, ← List.cons_append, ← List.append_assoc] at same
    exact matched before name offset front (List.append_inj' same rfl).1

end ClosingsMatch

/-- From left to right, either all closing tags match, or one of them is at fault. -/
theorem leavesOpen_or_fault (tokens : List Token) :
    (∃ opened, LeavesOpen tokens opened ∧ ClosingsMatch tokens) ∨
      ∃ error, ∀ more, TagFault (tokens ++ more) error := by
  induction tokens using List.reverseRecOn with
  | nil =>
      refine Or.inl ⟨[], .nest .nil, ?_⟩
      intro before name offset after same
      simp at same
  | append_singleton tokens token ih =>
      rcases ih with ⟨opened, leaves, matched⟩ | ⟨error, fault⟩
      · cases token with
        | node node =>
            exact Or.inl ⟨opened, leaves.append (.node .nil), matched.concat (by simp)⟩
        | opening name offset =>
            exact Or.inl ⟨_, .opening leaves .nil, matched.concat (by simp)⟩
        | closing name offset =>
            have split : ∀ more, tokens ++ [.closing name offset] ++ more =
                tokens ++ .closing name offset :: more := by simp
            cases opened with
            | nil =>
                exact Or.inr ⟨_, fun more => .unmatched (split more) matched leaves⟩
            | cons innermost outer =>
                by_cases partner : innermost.1 = name
                · subst partner
                  refine Or.inl ⟨outer, leaves.closing offset, matched.concat ?_⟩
                  rintro _ _ ⟨⟩
                  exact ⟨innermost.2, outer, leaves⟩
                · exact Or.inr ⟨_, fun more => .mismatched (split more) matched leaves partner⟩
      · refine Or.inr ⟨error, fun more => ?_⟩
        rw [List.append_assoc]
        exact fault _

/-- Tokens that do not nest are at fault. -/
theorem tagsNest_or_fault (tokens : List Token) :
    TagsNest tokens ∨ ∃ error, TagFault tokens error := by
  rcases leavesOpen_or_fault tokens with ⟨opened, leaves, matched⟩ | ⟨error, fault⟩
  · cases leaves with
    | nest nested => exact Or.inl nested
    | opening outer nested => exact Or.inr ⟨_, .unclosed matched (.opening outer nested)⟩
  · exact Or.inr ⟨error, by simpa using fault []⟩

/-! ## Pairing -/

/-- Tokens that nest, and the nodes that they pair to before literals are joined
outside of tags. -/
inductive PairsTo : List Token → List Node → Prop where
  | nil : PairsTo [] []
  | node {node : Node} {rest : List Token} {nodes : List Node}
      (behind : PairsTo rest nodes) :
      PairsTo (.node node :: rest) (node :: nodes)
  | tag {name : String} {start finish : Nat} {inner rest : List Token}
      {children nodes : List Node}
      (inside : PairsTo inner children)
      (behind : PairsTo rest nodes) :
      PairsTo (.opening name start :: (inner ++ .closing name finish :: rest))
        (.tag name (joinLiterals children) :: nodes)

/-- Tokens that nest pair to some nodes. -/
theorem TagsNest.exists_pairsTo
    {tokens : List Token}
    (nested : TagsNest tokens) :
    ∃ nodes, PairsTo tokens nodes := by
  induction nested with
  | nil => exact ⟨[], .nil⟩
  | node _ behind =>
      rcases behind with
        ⟨nodes, behind⟩
      exact ⟨_, .node behind⟩
  | tag _ _ inside behind =>
      rcases inside, behind with
        ⟨⟨children, inside⟩, ⟨nodes, behind⟩⟩
      exact ⟨_, .tag inside behind⟩

/-- Inside any open tags, tokens add the nodes that they pair to. -/
theorem PairsTo.assembleFrom
    {tokens : List Token}
    {nodes : List Node}
    (pairs : PairsTo tokens nodes)
    (stack : List OpenTag)
    (current : List Node)
    (more : List Token) :
    assembleFrom stack current (tokens ++ more) =
      IcuMessage.assembleFrom stack (appendNodes nodes current) more := by
  induction pairs generalizing stack current more with
  | nil => rfl
  | node _ ih =>
      rw [List.cons_append, IcuMessage.assembleFrom, ih]
      rfl
  | @tag name start finish inner rest children nodes _ _ inside behind =>
      have kept : appendNode (.tag name (joinLiterals children)) current =
          .tag name (joinLiterals children) :: current :=
        appendNode_of_apart False.elim
      rw [List.cons_append, List.append_assoc, List.cons_append, IcuMessage.assembleFrom, inside,
        IcuMessage.assembleFrom, if_pos rfl, behind, appendNodes_cons, kept]
      rfl

/-- What tokens pair to is what they are assembled to, with neighbouring literals joined.
-/
theorem PairsTo.assemble
    {tokens : List Token}
    {nodes : List Node}
    (pairs : PairsTo tokens nodes) :
    assemble tokens = .ok (joinLiterals nodes) := by
  have whole := pairs.assembleFrom [] [] []
  rwa [List.append_nil] at whole

/-- Behind tokens, pairing goes on inside the tags that they leave open. -/
theorem LeavesOpen.assemble
    {tokens : List Token}
    {opened : List (String × Nat)}
    (leaves : LeavesOpen tokens opened) :
    ∃ stack current,
      stack.map (fun tag => (tag.name, tag.offset)) = opened ∧
        ∀ more, assemble (tokens ++ more) = assembleFrom stack current more := by
  induction leaves with
  | nest nested =>
      rcases nested.exists_pairsTo with
        ⟨nodes, pairs⟩
      exact ⟨[], appendNodes nodes [], rfl, fun more => pairs.assembleFrom [] [] more⟩
  | @opening before inner opened name offset _ nested ih =>
      rcases ih with
        ⟨stack, current, rfl, outer⟩
      rcases nested.exists_pairsTo with
        ⟨nodes, pairs⟩
      refine ⟨⟨name, offset, current⟩ :: stack, appendNodes nodes [], rfl, fun more => ?_⟩
      rw [List.append_assoc, outer, List.cons_append, assembleFrom, pairs.assembleFrom]

/-- The fault of tokens is what pairing reports. -/
theorem TagFault.assemble
    {tokens : List Token}
    {error : PatternError}
    (fault : TagFault tokens error) :
    assemble tokens = .error error := by
  cases fault with
  | unmatched here _ nothingOpen =>
      rcases nothingOpen.assemble with
        ⟨stack, current, empty, reached⟩
      rw [List.map_eq_nil_iff] at empty
      rw [here, reached, empty, assembleFrom.eq_def]
  | mismatched here _ opened differs =>
      rcases opened.assemble with
        ⟨stack, current, names, reached⟩
      rcases List.map_eq_cons_iff.mp names with
        ⟨innermost, outer, rfl, same, _⟩
      cases same
      rw [here, reached, assembleFrom, if_neg differs]
  | unclosed _ opened =>
      rcases opened.assemble with
        ⟨stack, current, names, reached⟩
      rcases List.map_eq_cons_iff.mp names with
        ⟨innermost, outer, rfl, same, _⟩
      cases same
      rw [← List.append_nil tokens, reached, assembleFrom.eq_def]

/-- Tokens are assembled to a message exactly if their tags nest. -/
theorem exists_assemble_eq_ok_iff {tokens : List Token} :
    (∃ message, assemble tokens = .ok message) ↔ TagsNest tokens := by
  constructor
  · rintro ⟨message, paired⟩
    rcases tagsNest_or_fault tokens with nested | ⟨error, fault⟩
    · exact nested
    · rw [fault.assemble] at paired
      cases paired
  · intro nested
    rcases nested.exists_pairsTo with
      ⟨nodes, pairs⟩
    exact ⟨_, pairs.assemble⟩

/-- Assembling fails exactly with the first fault among the tags. -/
theorem assemble_eq_error_iff {tokens : List Token} {error : PatternError} :
    assemble tokens = .error error ↔ TagFault tokens error := by
  constructor
  · intro reported
    rcases tagsNest_or_fault tokens with nested | ⟨other, fault⟩
    · rcases exists_assemble_eq_ok_iff.mpr nested with
        ⟨message, paired⟩
      rw [paired] at reported
      cases reported
    · rw [fault.assemble] at reported
      cases reported
      exact fault
  · exact TagFault.assemble

end IcuMessage
