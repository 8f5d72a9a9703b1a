import IcuMessage.Proofs.Message.FreePound
import IcuMessage.Proofs.Pattern.Reading
import IcuMessage.Proofs.Pattern.TagPairing
import IcuMessage.Proofs.Pattern.TextTokens

/-!
# Number signs in patterns

A number sign in a pattern is notation below a plural only, and text elsewhere.
So the message of a pattern has no free number sign
(`not_hasFreePound_of_parse`), whether its tags are ignored or not.
-/

namespace IcuMessage

open Message

/-- A token is no node with a free number sign. -/
def Token.PoundFree (token : Token) : Prop :=
  ∀ node, token = .node node → ¬ HasFreePound [node]

theorem Token.poundFree_literal (text : String) : (Token.node (.literal text)).PoundFree := by
  intro node same
  cases same
  exact not_hasFreePound_literal text

theorem Tag.poundFree_token (tag : Tag) (offset : Nat) : (tag.token offset).PoundFree := by
  intro node same
  rw [Tag.token] at same
  split at same <;> cases same

/-- Outside of plurals no token of text is a number sign. -/
theorem ParseContext.poundFree_textTokens
    (context : ParseContext)
    (pending : List Char)
    (offset : Nat)
    (text : List Char) :
    ∀ token ∈ context.textTokens false 0 pending offset text, token.PoundFree := by
  apply context.forall_mem_textTokens
  · exact fun _ _ => Token.poundFree_literal _
  · intro outside
    cases outside
  · exact fun _ tag offset _ => tag.poundFree_token offset

/-- A node that is appended to others is one of them afterwards, but for the
literals that it may join. -/
theorem mem_appendNode
    {node member : Node}
    {before : List Node}
    (found : member ∈ appendNode node before) :
    member = node ∨ member ∈ before ∨ ∃ text, member = .literal text := by
  have plain : member ∈ node :: before → member = node ∨ member ∈ before := List.mem_cons.mp
  unfold appendNode at found
  split at found
  case h_1 last rest =>
    split at found
    case h_1 text =>
      rcases List.mem_cons.mp found with rfl | later
      · exact Or.inr (Or.inr ⟨_, rfl⟩)
      · exact Or.inr (Or.inl (List.mem_cons_of_mem _ later))
    case h_2 => exact (plain found).imp_right Or.inl
  case h_2 => exact (plain found).imp_right Or.inl

/-- Joining literals frees no number sign. -/
theorem not_hasFreePound_appendNode
    {node : Node}
    {before : List Node}
    (nodeFree : ¬ HasFreePound [node])
    (beforeFree : ¬ HasFreePound before) :
    ¬ HasFreePound (appendNode node before) := by
  intro free
  rcases hasFreePound_iff_exists_mem.mp free with
    ⟨member, found, free⟩
  rcases mem_appendNode found with same | earlier | ⟨text, rfl⟩
  · exact nodeFree (same ▸ free)
  · exact beforeFree (hasFreePound_iff_exists_mem.mpr ⟨member, earlier, free⟩)
  · exact not_hasFreePound_literal text free

theorem hasFreePound_reverse_iff {message : List Node} :
    HasFreePound message.reverse ↔ HasFreePound message := by
  rw [hasFreePound_iff_exists_mem, hasFreePound_iff_exists_mem]
  simp only [List.mem_reverse]

theorem pairingKeeps_not_hasFreePound :
    PairingKeeps Token.PoundFree fun before => ¬ HasFreePound before where
  nil := not_hasFreePound_nil
  node node before sound := not_hasFreePound_appendNode (sound node rfl)
  tag name offset inner before _ innerFree beforeFree free := by
    rcases hasFreePound_cons_iff.mp free with tag | earlier
    · rw [hasFreePound_tag_iff, hasFreePound_reverse_iff] at tag
      exact innerFree tag
    · exact beforeFree earlier

/-- Pairing the tags of tokens sets no number sign free. -/
theorem not_hasFreePound_assemble
    {tokens : List Token}
    {message : Message}
    (assembled : assemble tokens = .ok message)
    (tokensFree : ∀ token ∈ tokens, token.PoundFree) :
    ¬ HasFreePound message := by
  rw [← hasFreePound_reverse_iff]
  exact pairingKeeps_not_hasFreePound.assemble assembled tokensFree

/-- Outside plurals, nests read as tokens, arguments and options without free
number signs. -/
structure Nest.ReadPoundFree (context : ParseContext) (nests : List Nest) : Prop where
  asMessage : ∀ tokens, MessageReading context false nests tokens →
    ∀ token ∈ tokens, token.PoundFree
  asArgument : ∀ node, ArgumentReading context false nests node → ¬ HasFreePound [node]
  asOptions : ∀ seen pending options, OptionsReading context false seen pending nests options →
    ∀ option ∈ options, ¬ HasFreePound option.2

namespace Nest.ReadPoundFree

variable {context : ParseContext} {rest : List Nest}

theorem nil : ReadPoundFree context [] where
  asMessage tokens reading := by
    cases reading
    simp
  asArgument node reading := by
    cases reading
  asOptions seen pending options reading := by
    cases reading
    simp

theorem text
    (content : List Char)
    (offset : Nat)
    (behind : ReadPoundFree context rest) :
    ReadPoundFree context (.text content offset :: rest) where
  asMessage tokens reading := by
    cases reading with
    | text reading =>
        have here := context.poundFree_textTokens [] offset content
        exact List.forall_mem_append.mpr ⟨here, behind.asMessage _ reading⟩
  asArgument node reading := by
    cases reading with
    | plain => exact not_hasFreePound_argument _
    | formatted => exact not_hasFreePound_formatted _ _ _
    | styled => exact not_hasFreePound_formatted _ _ _
    | plural => exact not_hasFreePound_plural _ _ _ _
    | select header inside other =>
        intro free
        rcases hasFreePound_select_iff.mp free with
          ⟨branch, member, free⟩
        exact behind.asOptions _ _ _ inside branch (Table.mem_ofList member) free
  asOptions seen pending options reading := by
    cases reading with
    | text reading => exact behind.asOptions _ _ _ reading

/-- A block in front of nests holds no free number sign: one in a plural is bound by it.
-/
theorem block
    {children : List Nest}
    (offset : Nat)
    (inside : ReadPoundFree context children)
    (behind : ReadPoundFree context rest) :
    ReadPoundFree context (.block children offset :: rest) where
  asMessage tokens reading := by
    cases reading with
    | block argument reading =>
        refine List.forall_mem_cons.mpr ⟨?_, behind.asMessage _ reading⟩
        intro node same
        cases same
        exact inside.asArgument _ argument
  asArgument node reading := by
    cases reading
  asOptions seen pending options reading := by
    cases reading with
    | block denotes fresh body tree reading =>
        have bodyFree := not_hasFreePound_assemble tree (inside.asMessage _ body)
        exact List.forall_mem_cons.mpr ⟨bodyFree, behind.asOptions _ _ _ reading⟩

end Nest.ReadPoundFree

/-- Outside of plurals, no number sign of what nests read as is free. -/
theorem Nest.readPoundFree
    (context : ParseContext)
    (nests : List Nest) :
    Nest.ReadPoundFree context nests := by
  induction nests using Nest.induct with
  | nil => exact .nil
  | text content offset rest behind => exact .text content offset behind
  | block children offset rest inside behind => exact .block offset inside behind

/-- The message of a pattern has no free number sign. -/
theorem not_hasFreePound_of_parse
    {ignoreTags : Bool}
    {pattern : String}
    {message : Message}
    (parsed : parse ignoreTags pattern = .ok message) :
    ¬ message.HasFreePound := by
  rcases parse_eq_ok_iff.mp parsed with
    ⟨nests, tokens, _, reading, tree⟩
  exact not_hasFreePound_assemble tree ((Nest.readPoundFree _ nests).asMessage tokens reading)

end IcuMessage
