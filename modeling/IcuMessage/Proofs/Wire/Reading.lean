import IcuMessage.Proofs.Message.Induction
import IcuMessage.Proofs.Pattern.PrintedArguments
import IcuMessage.Proofs.Text.Integers
import IcuMessage.Proofs.Wire.Branches

/-!
# Reading what was written

The value that is written for an ordered message is read as the message, also
after the entries of its objects have been put in another order
(`Message.readsBackFromJson`).
-/

namespace IcuMessage

/-- A search that passes the entries with other keys reads the entry of a key. -/
theorem Json.eq_entry?_of_search
    {α : Type}
    {read? : Json → Option α}
    {wanted : String}
    {search : List (String × Json) → Option α}
    (nil : search [] = none)
    (cons : ∀ key value rest,
      search ((key, value) :: rest) = if key = wanted then read? value else search rest)
    (entries : List (String × Json)) :
    search entries = Json.entry? read? wanted entries := by
  induction entries with
  | nil =>
      rw [nil]
      rfl
  | cons entry rest ih =>
      rw [cons, ih, Json.entry?, Json.entry?, List.lookup_cons]
      by_cases same : entry.1 = wanted
      · simp [same]
      · simp [same, beq_false_of_ne (Ne.symm same)]

theorem childrenOfEntries?_eq (entries : List (String × Json)) :
    childrenOfEntries? entries = Json.entry? (Message.ofJson? true) "children" entries := by
  apply Json.eq_entry?_of_search
  · rw [childrenOfEntries?]
  · intro key value rest
    rw [childrenOfEntries?]

theorem pluralOptionsOfEntries?_eq (entries : List (String × Json)) :
    pluralOptionsOfEntries? entries = Json.entry? pluralBranchesOfJson? "options" entries := by
  apply Json.eq_entry?_of_search
  · rw [pluralOptionsOfEntries?]
  · intro key value rest
    rw [pluralOptionsOfEntries?]

theorem selectOptionsOfEntries?_eq (entries : List (String × Json)) :
    selectOptionsOfEntries? entries = Json.entry? selectBranchesOfJson? "options" entries := by
  apply Json.eq_entry?_of_search
  · rw [selectOptionsOfEntries?]
  · intro key value rest
    rw [selectOptionsOfEntries?]

namespace Json

/-- An object with one entry has it in any order. -/
theorem Alike.of_single
    {json : Json}
    {key text : String}
    (alike : Alike json (.object [(key, .text text)])) :
    json = .object [(key, .text text)] := by
  rcases alike.of_object with
    ⟨entries, rfl, moved, reordered, each⟩
  cases each with
  | cons same none =>
      cases none
      rw [List.perm_singleton.mp reordered, Prod.ext same.1 same.2.of_text]

namespace EntriesAlike

variable {α : Type} {read? : Json → Option α} {entries others : List (String × Json)}

/-- An entry that was written is read in its alike entries. -/
theorem entry?
    {key : String}
    {value : Json}
    {result : α}
    (alike : EntriesAlike entries others)
    (distinct : (others.map Prod.fst).Nodup)
    (member : (key, value) ∈ others)
    (reads : ∀ found, Alike found value → read? found = some result) :
    Json.entry? read? key entries = some result := by
  rcases alike.lookup_some distinct member with
    ⟨found, there, same⟩
  rw [Json.entry?, there]
  exact reads found same

theorem entryOr
    {default : α}
    {key : String}
    {value : Json}
    {result : α}
    (alike : EntriesAlike entries others)
    (distinct : (others.map Prod.fst).Nodup)
    (member : (key, value) ∈ others)
    (reads : ∀ found, Alike found value → read? found = some result) :
    Json.entryOr default read? key entries = some result := by
  rcases alike.lookup_some distinct member with
    ⟨found, there, same⟩
  rw [Json.entryOr, there]
  exact reads found same

theorem entryOr_absent
    {default : α}
    {key : String}
    (alike : EntriesAlike entries others)
    (absent : key ∉ others.map Prod.fst) :
    Json.entryOr default read? key entries = some default := by
  rw [Json.entryOr, alike.lookup_none absent]

theorem text
    {key text : String}
    (alike : EntriesAlike entries others)
    (distinct : (others.map Prod.fst).Nodup)
    (member : (key, .text text) ∈ others) :
    Json.entry? Json.text? key entries = some text := by
  refine alike.entry? distinct member fun found same => ?_
  rw [same.of_text]
  rfl

theorem nodeType
    {type : String}
    (nested : Bool)
    (alike : EntriesAlike entries others)
    (distinct : (others.map Prod.fst).Nodup)
    (member : ("type", .text type) ∈ others) :
    Json.entry? (nodeType? nested) "type" entries = some type := by
  refine alike.entry? distinct member fun found same => ?_
  rw [same.of_text]
  rfl

end EntriesAlike

end Json

/-- A style reads back from its JSON in any order of entries. -/
theorem Style.ofJson?_of_alike
    {style : Style}
    {json : Json}
    (alike : Json.Alike json style.toJson) :
    Json.nullable Style.ofJson? json = some (some style) := by
  cases style with
  | named name =>
      rw [Json.Alike.of_single alike]
      rfl
  | skeleton text =>
      rw [Json.Alike.of_single alike]
      rfl

/-- The node of a type for the entries of its object. -/
def Node.ofTypedEntries? (entries : List (String × Json)) : String → Option Node
  | "literal" => (Json.entry? Json.text? "text" entries).map .literal
  | "argument" => (Json.entry? Json.text? "name" entries).map .argument
  | "plural" => do
      let name ← Json.entry? Json.text? "name" entries
      let offset ← Json.entryOr 0 Json.int64? "offset" entries
      let branches ← Json.entry? pluralBranchesOfJson? "options" entries
      let ordinal ← Json.entryOr false Json.boolean? "ordinal" entries
      some (.plural name (.ofOrdinal ordinal) offset branches)
  | "select" => do
      let name ← Json.entry? Json.text? "name" entries
      let branches ← Json.entry? selectBranchesOfJson? "options" entries
      some (.select name branches)
  | "pound" => some .pound
  | "tag" => do
      let name ← Json.entry? Json.text? "name" entries
      let children ← Json.entry? (Message.ofJson? true) "children" entries
      some (.tag name children)
  | word => do
      let category ← Category.ofWord? word
      let name ← Json.entry? Json.text? "name" entries
      let style ← Json.entryOr none (Json.nullable Style.ofJson?) "style" entries
      some (.formatted category name style)

theorem Node.ofJson?_object
    (nested : Bool)
    (entries : List (String × Json)) :
    Node.ofJson? nested (.object entries) =
      (Json.entry? (nodeType? nested) "type" entries).bind (Node.ofTypedEntries? entries) := by
  rw [Node.ofJson?, pluralOptionsOfEntries?_eq, selectOptionsOfEntries?_eq,
    childrenOfEntries?_eq]
  cases Json.entry? (nodeType? nested) "type" entries with
  | none => rfl
  | some type =>
      rw [Option.bind_some, Node.ofTypedEntries?.eq_def]
      split <;> simp_all

/-- A node is read from what is written for it. -/
def Node.ReadsBackFromJson (node : Node) : Prop :=
  ∀ nested json, Json.Alike json node.toJson → Node.ofJson? nested json = some node

/-- A message is read from what is written for it. -/
def Message.ReadsBackFromJson (message : Message) : Prop :=
  ∀ nested json, Json.Alike json message.toJson → Message.ofJson? nested json = some message

namespace Node.ReadsBackFromJson

/-- A node is read back if it is read from entries like its own, once its type is known. -/
theorem of_typed_entries
    {node : Node}
    {type : String}
    {written : List (String × Json)}
    (writes : node.toJson = .object (("type", .text type) :: written))
    (distinct : ((("type", Json.text type) :: written).map Prod.fst).Nodup)
    (reads : ∀ entries, Json.EntriesAlike entries (("type", .text type) :: written) →
      Node.ofTypedEntries? entries type = some node) :
    node.ReadsBackFromJson := by
  intro nested json same
  rw [writes] at same
  rcases same.of_object with
    ⟨entries, rfl, alike⟩
  have typed := alike.nodeType nested distinct List.mem_cons_self
  rw [Node.ofJson?_object, typed, Option.bind_some]
  exact reads entries alike

theorem literal (text : String) : ReadsBackFromJson (.literal text) := by
  refine .of_typed_entries rfl (by simp) fun entries alike => ?_
  have content : Json.entry? Json.text? "text" entries = some text :=
    alike.text (by simp) (by simp)
  unfold Node.ofTypedEntries?
  simp only [content, Option.map_some]

theorem argument (name : String) : ReadsBackFromJson (.argument name) := by
  refine .of_typed_entries rfl (by simp) fun entries alike => ?_
  have named : Json.entry? Json.text? "name" entries = some name :=
    alike.text (by simp) (by simp)
  unfold Node.ofTypedEntries?
  simp only [named, Option.map_some]

theorem pound : ReadsBackFromJson .pound :=
  .of_typed_entries rfl (by simp) fun _ _ => rfl

theorem ofTypedEntries?_word
    (entries : List (String × Json))
    (category : Category) :
    Node.ofTypedEntries? entries category.word = (do
      let name ← Json.entry? Json.text? "name" entries
      let style ← Json.entryOr none (Json.nullable Style.ofJson?) "style" entries
      some (.formatted category name style)) := by
  cases category <;> rfl

/-- A placeholder with a category reads back, with or without a style. -/
theorem formatted (category : Category) (name : String) (style : Option Style) :
    ReadsBackFromJson (.formatted category name style) := by
  cases style with
  | none =>
      refine .of_typed_entries rfl (by simp) fun entries alike => ?_
      have named : Json.entry? Json.text? "name" entries = some name :=
        alike.text (by simp) (by simp)
      have styled : Json.entryOr none (Json.nullable Style.ofJson?) "style" entries = some none :=
        alike.entryOr_absent (by simp)
      rw [ofTypedEntries?_word, named, styled]
      rfl
  | some style =>
      refine .of_typed_entries rfl (by simp) fun entries alike => ?_
      have named : Json.entry? Json.text? "name" entries = some name :=
        alike.text (by simp) (by simp)
      have styled :
          Json.entryOr none (Json.nullable Style.ofJson?) "style" entries = some (some style) :=
        alike.entryOr (by simp) (.tail _ (.tail _ (.head _)))
          fun found same => Style.ofJson?_of_alike same
      rw [ofTypedEntries?_word, named, styled]
      rfl

/-- A plural reads back if the messages of its branches do. -/
theorem plural
    {branches : List (PluralKey × Message)}
    (name : String)
    (rule : PluralRule)
    (offset : Int64)
    (ascending : Table.Ascending branches)
    (inside : ∀ branch ∈ branches, Message.ReadsBackFromJson branch.2) :
    ReadsBackFromJson (.plural name rule offset branches) := by
  refine .of_typed_entries rfl (by simp) fun entries alike => ?_
  rw [pluralBranchesToJson_eq] at alike
  have named : Json.entry? Json.text? "name" entries = some name :=
    alike.text (by simp) (by simp)
  have shifted : Json.entryOr 0 Json.int64? "offset" entries = some offset := by
    refine alike.entryOr (by simp) (.tail _ (.tail _ (.head _))) fun found same => ?_
    rw [same.of_integer]
    exact Text.int64OfInt?_toInt offset
  have branching : Json.entry? pluralBranchesOfJson? "options" entries = some branches := by
    refine alike.entry? (by simp) (.tail _ (.tail _ (.tail _ (.head _)))) fun found same => ?_
    rw [pluralBranchesOfJson?_iff]
    refine .of_alike ascending ?_ (fun branch member => inside branch member true) same
    intro key
    rw [PluralKey.ofEntryKey?, key.read_write]
    rfl
  have flagged : Json.entryOr false Json.boolean? "ordinal" entries = some rule.isOrdinal := by
    refine alike.entryOr (by simp) (.tail _ (.tail _ (.tail _ (.tail _ (.head _))))) ?_
    intro found same
    rw [same.of_boolean]
    rfl
  unfold Node.ofTypedEntries?
  simp only [named, shifted, branching, flagged, bind,
    Option.bind_some, PluralRule.ofOrdinal_isOrdinal]

theorem select
    {branches : List (String × Message)}
    (name : String)
    (ascending : Table.Ascending branches)
    (inside : ∀ branch ∈ branches, Message.ReadsBackFromJson branch.2) :
    ReadsBackFromJson (.select name branches) := by
  refine .of_typed_entries rfl (by simp) fun entries alike => ?_
  rw [selectBranchesToJson_eq] at alike
  have named : Json.entry? Json.text? "name" entries = some name :=
    alike.text (by simp) (by simp)
  have branching : Json.entry? selectBranchesOfJson? "options" entries = some branches := by
    refine alike.entry? (by simp) (.tail _ (.tail _ (.head _))) fun found same => ?_
    rw [selectBranchesOfJson?_iff]
    exact .of_alike ascending (fun _ => rfl) (fun branch member => inside branch member true) same
  unfold Node.ofTypedEntries?
  simp only [named, branching, bind, Option.bind_some]

/-- A tag reads back if its children do. -/
theorem tag
    {children : Message}
    (name : String)
    (inside : children.ReadsBackFromJson) :
    ReadsBackFromJson (.tag name children) := by
  refine .of_typed_entries rfl (by simp) fun entries alike => ?_
  have named : Json.entry? Json.text? "name" entries = some name :=
    alike.text (by simp) (by simp)
  have nesting : Json.entry? (Message.ofJson? true) "children" entries = some children :=
    alike.entry? (by simp) (.tail _ (.tail _ (.head _))) (inside true)
  unfold Node.ofTypedEntries?
  simp only [named, nesting, bind, Option.bind_some]

end Node.ReadsBackFromJson

namespace Message.ReadsBackFromJson

theorem nil : ReadsBackFromJson [] := by
  intro nested json alike
  rcases alike.of_array with
    ⟨items, rfl, none⟩
  cases none
  rw [Message.ofJson?, nodesOfJson?]

/-- A message reads back if its first node and the others do. -/
theorem cons
    {node : Node}
    {rest : Message}
    (first : node.ReadsBackFromJson)
    (later : ReadsBackFromJson rest) :
    ReadsBackFromJson (node :: rest) := by
  intro nested json alike
  rcases alike.of_array with
    ⟨items, rfl, each⟩
  cases each with
  | @cons item _ items _ same each =>
      have behind := later nested (.array items) (.array each)
      rw [Message.ofJson?] at behind
      rw [Message.ofJson?, nodesOfJson?, first nested item same, behind]
      rfl

end Message.ReadsBackFromJson

/-- An ordered message is read from what is written for it, by induction over it. -/
theorem Message.Ordered.readsBackFromJson
    {message : Message}
    (ordered : message.Ordered) :
    message.ReadsBackFromJson := by
  induction message using Message.induct with
  | nil => exact .nil
  | literal text rest ih => exact .cons (.literal text) (ih ordered.2)
  | argument name rest ih => exact .cons (.argument name) (ih ordered.2)
  | formatted category name style rest ih =>
      exact .cons (.formatted category name style) (ih ordered.2)
  | plural name rule offset branches rest inside ih =>
      rcases ordered with
        ⟨⟨ascending, bodies⟩, later⟩
      rw [pluralBranchesOrdered_iff] at bodies
      refine .cons (.plural name rule offset ascending ?_) (ih later)
      exact fun branch member => inside branch member (bodies branch member)
  | select name branches rest inside ih =>
      rcases ordered with
        ⟨⟨ascending, bodies⟩, later⟩
      rw [selectBranchesOrdered_iff] at bodies
      refine .cons (.select name ascending ?_) (ih later)
      exact fun branch member => inside branch member (bodies branch member)
  | pound rest ih => exact .cons .pound (ih ordered.2)
  | tag name children rest inside ih => exact .cons (.tag name (inside ordered.1)) (ih ordered.2)

end IcuMessage
