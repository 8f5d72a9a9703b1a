import IcuMessage.Proofs.Message.Walk
import IcuMessage.Proofs.Pattern.PoundScope
import IcuMessage.Proofs.Pattern.WellFormed

/-!
# The blocks that branching nodes are read from

The plurals and selects of a message do not come from nowhere: each of them, at any depth
and inside any tag, is what some block of the nests is read as
(`MessageReading.fromBlocks`).  Putting tags together moves nodes about, but makes no
plural and no select.
-/

namespace IcuMessage

/-- A block with the given nests inside, whose content starts at a byte offset, stands
among nests, at any depth. -/
inductive Nest.HasBlock (children : List Nest) (start : Nat) : List Nest → Prop where
  | here {rest : List Nest} : HasBlock children start (.block children start :: rest)
  | behind {nest : Nest} {rest : List Nest}
      (later : HasBlock children start rest) :
      HasBlock children start (nest :: rest)
  | inside {inner rest : List Nest} {offset : Nat}
      (deeper : HasBlock children start inner) :
      HasBlock children start (.block inner offset :: rest)

/-- The node has branches: it is a plural or a select. -/
def Node.IsBranching : Node → Prop
  | .plural _ _ _ _ | .select _ _ => True
  | .literal _ | .argument _ | .formatted _ _ _ | .pound | .tag _ _ => False

namespace Message

variable {node : Node} {message : Message}

/-- A message contains what one of its nodes contains. -/
theorem contains_iff_exists_mem :
    message.Contains node ↔ ∃ member ∈ message, Contains node [member] := by
  induction message with
  | nil =>
      constructor
      · intro contained
        cases contained
      · rintro ⟨_, member, _⟩
        cases member
  | cons first rest ih =>
      rw [← List.singleton_append, contains_append_iff, ih]
      simp

theorem contains_reverse_iff : Contains node message.reverse ↔ message.Contains node := by
  rw [contains_iff_exists_mem, contains_iff_exists_mem]
  simp only [List.mem_reverse]

/-- Each plural and select in a message is what some block of the nests is read as. -/
def FromBlocks (context : ParseContext) (nests : List Nest) (message : Message) : Prop :=
  ∀ node, message.Contains node → node.IsBranching →
    ∃ children start inPlural,
      Nest.HasBlock children start nests ∧ ArgumentReading context inPlural children node

namespace FromBlocks

variable {context : ParseContext} {nests : List Nest}

theorem mono
    {other : List Nest}
    (blocks : ∀ children start,
      Nest.HasBlock children start nests → Nest.HasBlock children start other)
    (origin : message.FromBlocks context nests) :
    message.FromBlocks context other := by
  intro node contained branching
  rcases origin node contained branching with
    ⟨children, start, inPlural, block, reading⟩
  exact ⟨children, start, inPlural, blocks children start block, reading⟩

theorem behind (origin : message.FromBlocks context nests) (nest : Nest) :
    message.FromBlocks context (nest :: nests) :=
  origin.mono fun _ _ => .behind

theorem iff_forall_mem :
    message.FromBlocks context nests ↔ ∀ member ∈ message, FromBlocks context nests [member] := by
  constructor
  · intro origin member inMessage node contained
    exact origin node (contains_iff_exists_mem.mpr ⟨member, inMessage, contained⟩)
  · intro origins node contained
    rcases contains_iff_exists_mem.mp contained with
      ⟨member, inMessage, within⟩
    exact origins member inMessage node within

theorem nil : FromBlocks context nests [] := by
  intro node contained
  cases contained

theorem literal (text : String) : FromBlocks context nests [.literal text] := by
  intro node contained branching
  cases contained with
  | first => cases branching
  | behind later => cases later

theorem pound : FromBlocks context nests [.pound] := by
  intro node contained branching
  cases contained with
  | first => cases branching
  | behind later => cases later

theorem tag
    {name : String}
    {children before : Message}
    (inside : FromBlocks context nests children)
    (outside : FromBlocks context nests before) :
    FromBlocks context nests (.tag name children.reverse :: before) := by
  intro node contained branching
  cases contained with
  | first => cases branching
  | behind later => exact outside node later branching
  | inTag within => exact inside node (contains_reverse_iff.mp within) branching

/-- Joining literals brings in no argument from elsewhere. -/
theorem appendNode
    {before : Message}
    (here : FromBlocks context nests [node])
    (earlier : FromBlocks context nests before) :
    FromBlocks context nests (appendNode node before) := by
  refine iff_forall_mem.mpr fun member found => ?_
  rcases mem_appendNode found with rfl | inBefore | ⟨text, rfl⟩
  · exact here
  · exact iff_forall_mem.mp earlier member inBefore
  · exact literal text

end FromBlocks

end Message

/-- The plurals and selects in the node of a token, if it is one, are read from blocks. -/
def Token.FromBlocks (context : ParseContext) (nests : List Nest) (token : Token) : Prop :=
  ∀ node, token = .node node → Message.FromBlocks context nests [node]

theorem Token.FromBlocks.behind
    {context : ParseContext}
    {nests : List Nest}
    {token : Token}
    (origin : token.FromBlocks context nests)
    (nest : Nest) :
    token.FromBlocks context (nest :: nests) :=
  fun node same => (origin node same).behind nest

/-- Pairing tags keeps the origin of every node. -/
theorem pairingKeeps_fromBlocks (context : ParseContext) (nests : List Nest) :
    PairingKeeps (Token.FromBlocks context nests) (Message.FromBlocks context nests) where
  nil := .nil
  node node _ here earlier := .appendNode (here node rfl) earlier
  tag _ _ _ _ _ inside outside := .tag inside outside

theorem Message.FromBlocks.assemble
    {context : ParseContext}
    {nests : List Nest}
    {tokens : List Token}
    {message : Message}
    (assembled : assemble tokens = .ok message)
    (origins : ∀ token ∈ tokens, token.FromBlocks context nests) :
    message.FromBlocks context nests := by
  have reversed := (pairingKeeps_fromBlocks context nests).assemble assembled origins
  intro node contained
  exact reversed node (contains_reverse_iff.mpr contained)

/-- Text holds no arguments, so its tokens need no block. -/
theorem ParseContext.fromBlocks_textTokens
    (context : ParseContext)
    (nests : List Nest)
    (inPlural : Bool)
    (offset : Nat)
    (text : List Char) :
    ∀ token ∈ context.textTokens inPlural 0 [] offset text, token.FromBlocks context nests := by
  apply context.forall_mem_textTokens
  · rintro pending _ _ ⟨⟩
    exact .literal _
  · rintro _ _ ⟨⟩
    exact .pound
  · intro _ tag offset _ node same
    rw [Tag.token] at same
    split at same <;> cases same

/-- Inside the node that a block is read as, the plurals and selects are read from the
blocks in that block. -/
def Node.InsideFromBlocks (context : ParseContext) (nests : List Nest) (node : Node) : Prop :=
  ∀ inner, Message.Contains inner [node] → inner.IsBranching →
    inner = node ∨ ∃ children start inPlural,
      Nest.HasBlock children start nests ∧ ArgumentReading context inPlural children inner

/-- Nothing is inside a node without messages. -/
theorem Node.insideFromBlocks_of_inside_eq_nil
    {context : ParseContext}
    {nests : List Nest}
    {node : Node}
    (bare : node.inside = []) :
    node.InsideFromBlocks context nests := by
  intro inner contained _
  rw [← Message.mem_walk_iff, Message.walk_cons, bare] at contained
  exact Or.inl (by simpa using contained)

section Reading

variable {context : ParseContext}

-- The induction is on the derivation, so the three rule sets call one another.
mutual

/-- The arguments in the tokens of nests are read off blocks of these nests. -/
theorem MessageReading.fromBlocks
    {inPlural : Bool}
    {nests : List Nest}
    {tokens : List Token} :
    MessageReading context inPlural nests tokens →
      ∀ token ∈ tokens, token.FromBlocks context nests
  | .nil => by simp
  | .text behind =>
      List.forall_mem_append.mpr
        ⟨context.fromBlocks_textTokens _ _ _ _,
          fun token member => (behind.fromBlocks token member).behind _⟩
  | .block argument behind => by
      refine List.forall_mem_cons.mpr
        ⟨?_, fun token member => (behind.fromBlocks token member).behind _⟩
      rintro _ ⟨⟩ inner contained branching
      rcases argument.insideFromBlocks inner contained branching with rfl | deeper
      · exact ⟨_, _, _, .here, argument⟩
      · rcases deeper with
          ⟨children, start, inPlural, block, reading⟩
        exact ⟨children, start, inPlural, .inside block, reading⟩

/-- The arguments in the branches of an argument are read off blocks inside of it. -/
theorem ArgumentReading.insideFromBlocks
    {inPlural : Bool}
    {nests : List Nest}
    {node : Node} :
    ArgumentReading context inPlural nests node → node.InsideFromBlocks context nests
  | .plain _ => Node.insideFromBlocks_of_inside_eq_nil (by rw [Node.inside])
  | .formatted _ _ => Node.insideFromBlocks_of_inside_eq_nil (by rw [Node.inside])
  | .styled _ _ _ => Node.insideFromBlocks_of_inside_eq_nil (by rw [Node.inside])
  | .plural _ _ _ options keyed => by
      intro inner contained branching
      have branches := keyed.forall_mem options.fromBlocks
      cases contained with
      | first => exact Or.inl rfl
      | behind later => cases later
      | inPlural member within =>
          exact Or.inr ((branches _ member).behind _ inner within branching)
  | .select _ options _ => by
      intro inner contained branching
      cases contained with
      | first => exact Or.inl rfl
      | behind later => cases later
      | inSelect member within =>
          have branch := options.fromBlocks _ (Table.mem_ofList member)
          exact Or.inr (branch.behind _ inner within branching)

/-- The arguments in the messages of options are read off blocks of these nests. -/
theorem OptionsReading.fromBlocks
    {inPlural : Bool}
    {seen : List String}
    {pending : List Char}
    {nests : List Nest}
    {options : List (String × Message)} :
    OptionsReading context inPlural seen pending nests options →
      ∀ option ∈ options, Message.FromBlocks context nests option.2
  | .nil _ => by simp
  | .text behind => fun option member => (behind.fromBlocks option member).behind _
  | .block _ _ inside tree behind => by
      have body := Message.FromBlocks.assemble tree inside.fromBlocks
      exact List.forall_mem_cons.mpr
        ⟨body.mono fun _ _ => .inside,
          fun option member => (behind.fromBlocks option member).behind _⟩

end

end Reading

end IcuMessage
