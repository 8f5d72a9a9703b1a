import IcuMessage.Proofs.Wire.Reading

/-!
# The order of messages that are read

Whatever a value is read as has its branches in order
(`Message.ordered_of_ofJson?`): the entries of an object are added one after the
other to a table, which keeps its order.
-/

namespace IcuMessage

theorem Json.exists_of_entry?
    {α : Type}
    {read? : Json → Option α}
    {key : String}
    {entries : List (String × Json)}
    {result : α}
    (read : Json.entry? read? key entries = some result) :
    ∃ value, (key, value) ∈ entries ∧ read? value = some result := by
  rcases Option.bind_eq_some_iff.mp read with
    ⟨value, found, reads⟩
  exact ⟨value, Table.mem_of_lookup found, reads⟩

/-- Whatever is read from a value, and from the entries of it, is ordered. -/
structure Json.ReadsOrdered (json : Json) : Prop where
  asNode : ∀ nested node, Node.ofJson? nested json = some node → node.Ordered
  asMessage : ∀ nested message, Message.ofJson? nested json = some message → message.Ordered
  asBodies : ∀ entries, json = .object entries → ∀ entry ∈ entries, ∀ message,
    Message.ofJson? true entry.2 = some message → message.Ordered

namespace Json.ReadsOrdered

theorem bodies
    {κ : Type} [LT κ] [DecidableLT κ] [DecidableEq κ]
    {readKey? : String → Option κ}
    {json : Json}
    {table : List (κ × Message)}
    (reads : json.ReadsOrdered)
    (denotes : DenotesBranches readKey? json table) :
    ∀ branch ∈ table, Message.Ordered branch.2 := by
  intro branch member
  rcases denotes with
    ⟨entries, branches, rfl, each, built⟩
  have found : DenotesBranches readKey? (.object entries) table :=
    ⟨entries, branches, rfl, each, built⟩
  rcases found.exists_entry member with
    ⟨entry, inEntries, entryReads⟩
  exact reads.asBodies entries rfl entry inEntries branch.2 entryReads.body

theorem plural
    {json : Json}
    {branches : List (PluralKey × Message)}
    (reads : json.ReadsOrdered)
    (read : pluralBranchesOfJson? json = some branches)
    (name : String)
    (rule : PluralRule)
    (offset : Int64) :
    (Node.plural name rule offset branches).Ordered := by
  have denotes := pluralBranchesOfJson?_iff.mp read
  exact ⟨denotes.ascending, pluralBranchesOrdered_iff.mpr (reads.bodies denotes)⟩

theorem select
    {json : Json}
    {branches : List (String × Message)}
    (reads : json.ReadsOrdered)
    (read : selectBranchesOfJson? json = some branches)
    (name : String) :
    (Node.select name branches).Ordered := by
  have denotes := selectBranchesOfJson?_iff.mp read
  exact ⟨denotes.ascending, selectBranchesOrdered_iff.mpr (reads.bodies denotes)⟩

/-- A value that is neither an array nor an object is no message and no node. -/
theorem of_scalar
    {json : Json}
    (noNode : ∀ nested, Node.ofJson? nested json = none)
    (noMessage : ∀ nested, Message.ofJson? nested json = none)
    (noObject : ∀ entries, json ≠ .object entries) :
    json.ReadsOrdered where
  asNode nested node read := by
    rw [noNode] at read
    cases read
  asMessage nested message read := by
    rw [noMessage] at read
    cases read
  asBodies entries same := absurd same (noObject entries)

section Items

variable {items : List Json} {node : Node}

theorem ofPluralItems
    (inside : ∀ item ∈ items, ReadsOrdered item)
    (read : pluralOfItems? items = some node) :
    node.Ordered := by
  rw [pluralOfItems?.eq_def] at read
  split at read
  case h_1 name offset options =>
    simp only [bind, Option.bind_eq_some_iff] at read
    rcases read with
      ⟨branches, branching, word, _, shift, _, same⟩
    cases same
    exact (inside options (by simp)).plural branching word .cardinal shift
  case h_2 name offset options ordinal =>
    simp only [bind, Option.bind_eq_some_iff] at read
    rcases read with
      ⟨branches, branching, word, _, flag, _, shift, _, same⟩
    cases same
    exact (inside options (by simp)).plural branching word (.ofOrdinal flag) shift
  case h_3 => cases read

theorem ofSelectItems
    (inside : ∀ item ∈ items, ReadsOrdered item)
    (read : selectOfItems? items = some node) :
    node.Ordered := by
  rw [selectOfItems?.eq_def] at read
  split at read
  case h_1 name options =>
    simp only [bind, Option.bind_eq_some_iff] at read
    rcases read with
      ⟨branches, branching, word, _, same⟩
    cases same
    exact (inside options (by simp)).select branching word
  case h_2 => cases read

theorem ofTagItems
    (inside : ∀ item ∈ items, ReadsOrdered item)
    (read : tagOfItems? items = some node) :
    node.Ordered := by
  rw [tagOfItems?.eq_def] at read
  split at read
  case h_1 name children =>
    simp only [bind, Option.bind_eq_some_iff] at read
    rcases read with
      ⟨message, nesting, word, _, same⟩
    cases same
    exact (inside children (by simp)).asMessage true message nesting
  case h_2 => cases read

theorem ofFormattedItems
    {category : Category}
    (read : formattedOfItems? category items = some node) :
    node.Ordered := by
  rw [formattedOfItems?.eq_def] at read
  split at read
  case h_1 =>
    cases read
    trivial
  case h_2 =>
    rcases Option.map_eq_some_iff.mp read with
      ⟨style, _, rfl⟩
    trivial
  case h_3 => cases read

theorem ofItems
    {nested : Bool}
    (inside : ∀ item ∈ items, ReadsOrdered item)
    (read : Node.ofItems? nested items = some node) :
    node.Ordered := by
  cases items with
  | nil =>
      rw [Node.ofItems?] at read
      cases read
  | cons type rest =>
      have behind : ∀ item ∈ rest, ReadsOrdered item :=
        fun item member => inside item (.tail _ member)
      rw [Node.ofItems?.eq_def] at read
      simp only at read
      split at read
      case h_1 => cases read
      case h_2 =>
        split at read
        case h_1 =>
          rcases Option.map_eq_some_iff.mp read with
            ⟨text, _, rfl⟩
          trivial
        case h_2 => cases read
      case h_3 =>
        split at read
        case h_1 =>
          rcases Option.map_eq_some_iff.mp read with
            ⟨name, _, rfl⟩
          trivial
        case h_2 => cases read
      case h_4 => exact ofPluralItems behind read
      case h_5 => exact ofSelectItems behind read
      case h_6 =>
        split at read
        case isTrue =>
          cases read
          trivial
        case isFalse => cases read
      case h_7 => exact ofTagItems behind read
      case h_8 =>
        rcases Option.bind_eq_some_iff.mp read with
          ⟨category, _, formatted⟩
        exact ofFormattedItems formatted

end Items

/-- What is read from an array is in order if what is read from its items is. -/
theorem array
    {items : List Json}
    (inside : ∀ item ∈ items, ReadsOrdered item) :
    ReadsOrdered (.array items) where
  asNode nested node read := by
    rw [Node.ofJson?] at read
    exact ofItems inside read
  asMessage nested message read := by
    rw [Message.ofJson?] at read
    induction items generalizing message with
    | nil =>
        rw [nodesOfJson?] at read
        cases read
        trivial
    | cons item rest ih =>
        rw [nodesOfJson?] at read
        simp only [bind, Option.bind_eq_some_iff] at read
        rcases read with
          ⟨node, first, later, behind, same⟩
        cases same
        refine ⟨(inside item List.mem_cons_self).asNode nested node first, ?_⟩
        exact ih (fun other member => inside other (.tail _ member)) later behind
  asBodies entries same := nomatch same

/-- What is read from an object is in order if what is read from its entries is. -/
theorem object
    {entries : List (String × Json)}
    (inside : ∀ entry ∈ entries, ReadsOrdered entry.2) :
    ReadsOrdered (.object entries) where
  asNode nested node read := by
    rw [Node.ofJson?_object, Option.bind_eq_some_iff] at read
    rcases read with
      ⟨type, _, read⟩
    unfold Node.ofTypedEntries? at read
    split at read
    case h_1 =>
      rcases Option.map_eq_some_iff.mp read with
        ⟨text, _, rfl⟩
      trivial
    case h_2 =>
      rcases Option.map_eq_some_iff.mp read with
        ⟨name, _, rfl⟩
      trivial
    case h_3 =>
      simp only [bind, Option.bind_eq_some_iff] at read
      rcases read with
        ⟨name, _, offset, _, branches, branching, ordinal, _, same⟩
      cases same
      rcases Json.exists_of_entry? branching with
        ⟨value, member, readBranches⟩
      exact (inside _ member).plural readBranches name _ offset
    case h_4 =>
      simp only [bind, Option.bind_eq_some_iff] at read
      rcases read with
        ⟨name, _, branches, branching, same⟩
      cases same
      rcases Json.exists_of_entry? branching with
        ⟨value, member, readBranches⟩
      exact (inside _ member).select readBranches name
    case h_5 =>
      cases read
      trivial
    case h_6 =>
      simp only [bind, Option.bind_eq_some_iff] at read
      rcases read with
        ⟨name, _, children, nesting, same⟩
      cases same
      rcases Json.exists_of_entry? nesting with
        ⟨value, member, readChildren⟩
      exact (inside _ member).asMessage true children readChildren
    case h_7 =>
      simp only [bind, Option.bind_eq_some_iff] at read
      rcases read with
        ⟨category, _, name, _, style, _, same⟩
      cases same
      trivial
  asMessage nested message read := by
    cases read
  asBodies list same entry member := by
    cases same
    exact (inside entry member).asMessage true

end Json.ReadsOrdered

/-- Whatever a value is read as is ordered, by induction over the value. -/
theorem Json.readsOrdered (json : Json) : json.ReadsOrdered := by
  induction json using Json.induct with
  | null => exact .of_scalar (fun _ => rfl) (fun _ => rfl) nofun
  | boolean value => exact .of_scalar (fun _ => rfl) (fun _ => rfl) nofun
  | integer value => exact .of_scalar (fun _ => rfl) (fun _ => rfl) nofun
  | fraction mantissa exponent => exact .of_scalar (fun _ => rfl) (fun _ => rfl) nofun
  | text value => exact .of_scalar (fun _ => rfl) (fun _ => rfl) nofun
  | array items inside => exact .array inside
  | object entries inside => exact .object inside

/-- A message that is read from JSON has its branches in order at every depth. -/
theorem Message.ordered_of_ofJson?
    {nested : Bool}
    {json : Json}
    {message : Message}
    (read : Message.ofJson? nested json = some message) :
    message.Ordered :=
  json.readsOrdered.asMessage nested message read

end IcuMessage
