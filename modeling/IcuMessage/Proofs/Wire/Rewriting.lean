import IcuMessage.Proofs.Wire.Ordering

/-!
# Rewriting JSON

Every message that is read is written and read again without a loss, and writing it
once more changes nothing.  What is written has every plural key in its plainest
spelling.  `json_loses_nothing` has all of this.
-/

namespace IcuMessage

namespace Json

/-- A value is the other or stands inside of it, at any depth. -/
inductive Inside (inner : Json) : Json → Prop where
  | whole : Inside inner inner
  | item {items : List Json} {item : Json}
      (deeper : Inside inner item)
      (member : item ∈ items) :
      Inside inner (.array items)
  | entry {entries : List (String × Json)} {entry : String × Json}
      (deeper : Inside inner entry.2)
      (member : entry ∈ entries) :
      Inside inner (.object entries)

/-- If the entries are those of a plural, the keys of its options are in their
plainest spelling. -/
def PlainOptions (entries : List (String × Json)) : Prop :=
  ∀ options, entries.lookup "type" = some (.text "plural") →
    entries.lookup "options" = some (.object options) →
      ∀ option ∈ options, ∃ key, PluralKey.read option.1 = .ok key ∧ key.write = option.1

/-- The plural keys in a value are in their plainest spelling at every depth. -/
def PluralKeysPlain (json : Json) : Prop :=
  ∀ entries, Inside (.object entries) json → PlainOptions entries

namespace PluralKeysPlain

theorem text (value : String) : PluralKeysPlain (.text value) := by
  intro entries inside
  cases inside

theorem integer (value : Int) : PluralKeysPlain (.integer value) := by
  intro entries inside
  cases inside

theorem boolean (value : Bool) : PluralKeysPlain (.boolean value) := by
  intro entries inside
  cases inside

theorem array
    {items : List Json}
    (each : ∀ item ∈ items, PluralKeysPlain item) :
    PluralKeysPlain (.array items) := by
  intro entries inside
  cases inside with
  | item deeper member => exact each _ member entries deeper

/-- An object has plain plural keys if its own options and its entries do. -/
theorem object
    {entries : List (String × Json)}
    (plain : PlainOptions entries)
    (each : ∀ entry ∈ entries, PluralKeysPlain entry.2) :
    PluralKeysPlain (.object entries) := by
  intro found inside
  cases inside with
  | whole => exact plain
  | entry deeper member => exact each _ member found deeper

/-- The entries of a node of another type have no plural keys themselves. -/
theorem object_of_type
    {type : String}
    {entries : List (String × Json)}
    (other : type ≠ "plural")
    (each : ∀ entry ∈ entries, PluralKeysPlain entry.2) :
    PluralKeysPlain (.object (("type", .text type) :: entries)) := by
  refine object ?_ (List.forall_mem_cons.mpr ⟨text type, each⟩)
  intro options same
  rw [List.lookup_cons_self] at same
  cases same
  exact absurd rfl other

/-- Branches may have any keys: none of them has a text for its message. -/
theorem branches
    {κ : Type}
    {table : List (κ × Message)}
    (write : κ → String)
    (bodies : ∀ branch ∈ table, branch.2.toJson.PluralKeysPlain) :
    PluralKeysPlain (.object (table.map fun branch => (write branch.1, branch.2.toJson))) := by
  refine object ?_ ?_
  · intro options type
    rcases List.mem_map.mp (Table.mem_of_lookup type) with
      ⟨branch, _, same⟩
    cases congrArg Prod.snd same
  · intro entry member
    rcases List.mem_map.mp member with
      ⟨branch, inTable, rfl⟩
    exact bodies branch inTable

end PluralKeysPlain

end Json

namespace Node

open Json.PluralKeysPlain

theorem plainKeys_style (style : Style) : style.toJson.PluralKeysPlain := by
  cases style with
  | named name =>
      refine object ?_ (by simp [text])
      exact fun options type => nomatch type
  | skeleton word =>
      refine object ?_ (by simp [text])
      exact fun options type => nomatch type

theorem plainKeys_literal (content : String) : (literal content).toJson.PluralKeysPlain :=
  object_of_type (by simp) (by simp [text])

theorem plainKeys_argument (name : String) : (argument name).toJson.PluralKeysPlain :=
  object_of_type (by simp) (by simp [text])

theorem plainKeys_formatted (category : Category) (name : String) (style : Option Style) :
    (formatted category name style).toJson.PluralKeysPlain := by
  have other : category.word ≠ "plural" := by
    cases category <;> simp [Category.word]
  cases style with
  | none => exact object_of_type other (by simp [text])
  | some style => exact object_of_type other (by simp [text, plainKeys_style])

/-- A plural is written with plain keys. -/
theorem plainKeys_plural
    {table : List (PluralKey × Message)}
    (name : String)
    (rule : PluralRule)
    (offset : Int64)
    (bodies : ∀ branch ∈ table, branch.2.toJson.PluralKeysPlain) :
    (plural name rule offset table).toJson.PluralKeysPlain := by
  rw [Node.toJson, pluralBranchesToJson_eq]
  refine object ?_ (by simp [text, integer, boolean, branches PluralKey.write bodies])
  intro options _ found option member
  cases found
  rcases List.mem_map.mp member with
    ⟨branch, _, rfl⟩
  exact ⟨branch.1, branch.1.read_write, rfl⟩

theorem plainKeys_select
    {table : List (String × Message)}
    (name : String)
    (bodies : ∀ branch ∈ table, branch.2.toJson.PluralKeysPlain) :
    (select name table).toJson.PluralKeysPlain := by
  rw [Node.toJson, selectBranchesToJson_eq]
  exact object_of_type (by simp) (by simp [text, branches (fun key => key) bodies])

theorem plainKeys_pound : pound.toJson.PluralKeysPlain :=
  object_of_type (by simp) (by simp)

theorem plainKeys_tag
    {children : Message}
    (name : String)
    (inside : children.toJson.PluralKeysPlain) :
    (tag name children).toJson.PluralKeysPlain := by
  have nested : (Json.array (nodesToJson children)).PluralKeysPlain := inside
  exact object_of_type (by simp) (by simp [text, nested])

end Node

/-- The plural keys of a message are written plainly, by induction over it. -/
theorem Message.plainKeys (message : Message) : message.toJson.PluralKeysPlain := by
  have cons {node : Node} {rest : Message}
      (first : node.toJson.PluralKeysPlain)
      (later : (Message.toJson rest).PluralKeysPlain) :
      (Message.toJson (node :: rest)).PluralKeysPlain := by
    refine .array (List.forall_mem_cons.mpr ⟨first, ?_⟩)
    exact fun item member entries inside => later entries (.item inside member)
  induction message using Message.induct with
  | nil => exact .array nofun
  | literal text rest ih => exact cons (Node.plainKeys_literal text) ih
  | argument name rest ih => exact cons (Node.plainKeys_argument name) ih
  | formatted category name style rest ih =>
      exact cons (Node.plainKeys_formatted category name style) ih
  | plural name rule offset branches rest inside ih =>
      exact cons (Node.plainKeys_plural name rule offset inside) ih
  | select name branches rest inside ih => exact cons (Node.plainKeys_select name inside) ih
  | pound rest ih => exact cons Node.plainKeys_pound ih
  | tag name children rest inside ih => exact cons (Node.plainKeys_tag name inside) ih

/-- The value of the message that a value is read as. -/
def Message.rewriteJson? (json : Json) : Option Json :=
  (Message.ofJson? false json).map Message.toJson

/-- Every ordered message is read from the value that is written for it, whatever
order the entries of its objects come in; every message that is read is written and
read again as itself; and rewriting a value is idempotent and spells its plural keys
plainly, as every key reads back from its plainest spelling. -/
theorem json_loses_nothing :
    (∀ message : Message, message.Ordered →
      ∀ nested json, Json.Alike json message.toJson →
        Message.ofJson? nested json = some message) ∧
    (∀ nested json message, Message.ofJson? nested json = some message →
      Message.ofJson? nested message.toJson = some message) ∧
    (∀ json rewritten, Message.rewriteJson? json = some rewritten →
      Message.rewriteJson? rewritten = some rewritten ∧ rewritten.PluralKeysPlain) ∧
    (∀ key, PluralKey.read key.write = .ok key) := by
  refine ⟨?_, ?_, ?_, PluralKey.read_write⟩
  · intro message ordered
    exact ordered.readsBackFromJson
  · intro nested json message read
    have ordered := Message.ordered_of_ofJson? read
    exact ordered.readsBackFromJson nested _ (.same _)
  · intro json rewritten rewrites
    rcases Option.map_eq_some_iff.mp rewrites with
      ⟨message, read, rfl⟩
    have ordered := Message.ordered_of_ofJson? read
    refine ⟨?_, message.plainKeys⟩
    rw [Message.rewriteJson?, ordered.readsBackFromJson false _ (.same _), Option.map_some]

/-- A plural with two spellings of one key, of which the later stays. -/
def respelledPlural : Json :=
  .array [.object [
    ("options", .object [("=+1", .array []), ("other", .array []),
      ("= 1", .array [.object [("type", .text "pound")]])]),
    ("name", .text "n"), ("type", .text "plural")]]

/-- The plural as it is read. -/
def respelledPluralRead : Message :=
  [.plural "n" .cardinal 0 [(.exact 1, [.pound]), (.other, [])]]

/-- Of `respelledPlural` the later spelling stays, and what is written for it is read and
written again without loss. -/
theorem json_loses_nothing_respelledPlural :
    (respelledPluralRead.Ordered ∧
      Message.ofJson? false respelledPluralRead.toJson = some respelledPluralRead) ∧
    (Message.ofJson? false respelledPlural = some respelledPluralRead ∧
      Message.ofJson? false respelledPluralRead.toJson = some respelledPluralRead) ∧
    Message.rewriteJson? respelledPluralRead.toJson = some respelledPluralRead.toJson ∧
    PluralKey.read (PluralKey.exact 1).write = .ok (.exact 1) := by
  rcases json_loses_nothing with
    ⟨written, read, rewritten, keys⟩
  have ordered : respelledPluralRead.Ordered := by
    simp only [respelledPluralRead, Message.Ordered, Node.Ordered, pluralBranchesOrdered, and_true]
    exact List.pairwise_pair.mpr trivial
  have accepted : Message.ofJson? false respelledPlural = some respelledPluralRead := by rfl
  have rewrites : Message.rewriteJson? respelledPlural = some respelledPluralRead.toJson := by rfl
  exact ⟨⟨ordered, written _ ordered false _ (.same _)⟩, ⟨accepted, read false _ _ accepted⟩,
    (rewritten _ _ rewrites).1, keys _⟩

end IcuMessage
