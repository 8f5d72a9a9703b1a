import IcuMessage.Message.PluralKey
import IcuMessage.Wire.Json

/-!
# Messages as JSON

A message is an array of nodes, and a node an object whose `type` says which
other entries it has.  Entries that a type does not have are ignored.  A style
is an object with one entry, `named` or `skeleton`, and may be left out; the
`offset` and the `ordinal` flag of a plural may be left out too.

The branches of an argument are an object.  The keys of plural branches may be
spelled in any way that `PluralKey.read` accepts; of two spellings of one key
the later stays.

On reading, a node may also be an array of its type and its entries in their
order, of which those that may be left out can be missing at the end.  Inside
of another node, a type may also be given by its number.
-/

namespace IcuMessage

namespace Style

/-- The style that a value denotes. -/
def ofJson? : Json → Option Style
  | .object [("named", .text name)] => some (.named name)
  | .object [("skeleton", .text text)] => some (.skeleton text)
  | _ => none

/-- The value for a style. -/
def toJson : Style → Json
  | .named name => .object [("named", .text name)]
  | .skeleton text => .object [("skeleton", .text text)]

@[simp]
theorem ofJson?_toJson (style : Style) : ofJson? style.toJson = some style := by
  cases style <;> rfl

end Style

namespace PluralRule

/-- The rule for the value of an `ordinal` flag. -/
def ofOrdinal : Bool → PluralRule
  | true => .ordinal
  | false => .cardinal

/-- The value of the `ordinal` flag for a rule. -/
def isOrdinal : PluralRule → Bool
  | .ordinal => true
  | .cardinal => false

@[simp]
theorem ofOrdinal_isOrdinal (rule : PluralRule) : ofOrdinal rule.isOrdinal = rule := by
  cases rule <;> rfl

end PluralRule

/-- The signed 64-bit integer that a value denotes. -/
def Json.int64? (value : Json) : Option Int64 :=
  value.integer?.bind Text.int64OfInt?

/-- The plural key that an entry of an object has for its key. -/
def PluralKey.ofEntryKey? (key : String) : Option PluralKey :=
  (PluralKey.read key).toOption

mutual

/-- The value for a node. -/
def Node.toJson : Node → Json
  | .literal text => .object [("type", .text "literal"), ("text", .text text)]
  | .argument name => .object [("type", .text "argument"), ("name", .text name)]
  | .formatted category name none =>
      .object [("type", .text category.word), ("name", .text name)]
  | .formatted category name (some style) =>
      .object [("type", .text category.word), ("name", .text name), ("style", style.toJson)]
  | .plural name rule offset branches =>
      .object [("type", .text "plural"), ("name", .text name),
        ("offset", .integer offset.toInt), ("options", .object (pluralBranchesToJson branches)),
        ("ordinal", .boolean rule.isOrdinal)]
  | .select name branches =>
      .object [("type", .text "select"), ("name", .text name),
        ("options", .object (selectBranchesToJson branches))]
  | .pound => .object [("type", .text "pound")]
  | .tag name children =>
      .object [("type", .text "tag"), ("name", .text name),
        ("children", .array (nodesToJson children))]

/-- The values for neighbouring nodes. -/
def nodesToJson : List Node → List Json
  | [] => []
  | node :: rest => node.toJson :: nodesToJson rest

/-- The entries for plural branches. -/
def pluralBranchesToJson : List (PluralKey × List Node) → List (String × Json)
  | [] => []
  | (key, body) :: rest => (key.write, .array (nodesToJson body)) :: pluralBranchesToJson rest

/-- The entries for select branches. -/
def selectBranchesToJson : List (String × List Node) → List (String × Json)
  | [] => []
  | (key, body) :: rest => (key, .array (nodesToJson body)) :: selectBranchesToJson rest

end

/-- The value for a message. -/
def Message.toJson (message : Message) : Json :=
  .array (nodesToJson message)

/-- The types of nodes, in the order of their numbers. -/
def nodeTypes : List String :=
  ["literal", "argument", "number", "date", "time", "plural", "select", "pound", "tag"]

/-- The type of a node that a value denotes: its word, or inside of another
node also its number. -/
def nodeType? (nested : Bool) : Json → Option String
  | .text word => some word
  | .integer number =>
      if nested && 0 ≤ number then nodeTypes[number.toNat]? else none
  | _ => none

/-- The formatted argument for the values behind its type. -/
def formattedOfItems? (category : Category) : List Json → Option Node
  | [.text name] => some (.formatted category name none)
  | [.text name, style] =>
      (Json.nullable Style.ofJson? style).map (.formatted category name)
  | _ => none

mutual

/-- The message that a value denotes. -/
def Message.ofJson? (nested : Bool) : Json → Option Message
  | .array items => nodesOfJson? nested items
  | _ => none

/-- The nodes that neighbouring values denote. -/
def nodesOfJson? (nested : Bool) : List Json → Option (List Node)
  | [] => some []
  | item :: rest => do
      let node ← Node.ofJson? nested item
      let later ← nodesOfJson? nested rest
      some (node :: later)

/-- The node that a value denotes. -/
def Node.ofJson? (nested : Bool) : Json → Option Node
  | .object entries =>
      match Json.entry? (nodeType? nested) "type" entries with
      | none => none
      | some "literal" => (Json.entry? Json.text? "text" entries).map .literal
      | some "argument" => (Json.entry? Json.text? "name" entries).map .argument
      | some "plural" => do
          let name ← Json.entry? Json.text? "name" entries
          let offset ← Json.entryOr 0 Json.int64? "offset" entries
          let branches ← pluralOptionsOfEntries? entries
          let ordinal ← Json.entryOr false Json.boolean? "ordinal" entries
          some (.plural name (.ofOrdinal ordinal) offset branches)
      | some "select" => do
          let name ← Json.entry? Json.text? "name" entries
          let branches ← selectOptionsOfEntries? entries
          some (.select name branches)
      | some "pound" => some .pound
      | some "tag" => do
          let name ← Json.entry? Json.text? "name" entries
          let children ← childrenOfEntries? entries
          some (.tag name children)
      | some word => do
          let category ← Category.ofWord? word
          let name ← Json.entry? Json.text? "name" entries
          let style ← Json.entryOr none (Json.nullable Style.ofJson?) "style" entries
          some (.formatted category name style)
  | .array items => Node.ofItems? nested items
  | _ => none

/-- The node for its type and its entries in their order. -/
def Node.ofItems? (nested : Bool) : List Json → Option Node
  | [] => none
  | type :: rest =>
      match nodeType? nested type with
      | none => none
      | some "literal" => match rest with
          | [text] => text.text?.map .literal
          | _ => none
      | some "argument" => match rest with
          | [name] => name.text?.map .argument
          | _ => none
      | some "plural" => pluralOfItems? rest
      | some "select" => selectOfItems? rest
      | some "pound" => if rest.isEmpty then some .pound else none
      | some "tag" => tagOfItems? rest
      | some word => (Category.ofWord? word).bind fun category => formattedOfItems? category rest

/-- The plural for the values behind its type. -/
def pluralOfItems? : List Json → Option Node
  | [name, offset, options] => do
      let branches ← pluralBranchesOfJson? options
      some (.plural (← name.text?) .cardinal (← offset.int64?) branches)
  | [name, offset, options, ordinal] => do
      let branches ← pluralBranchesOfJson? options
      some (.plural (← name.text?) (.ofOrdinal (← ordinal.boolean?)) (← offset.int64?) branches)
  | _ => none

/-- The select for the values behind its type. -/
def selectOfItems? : List Json → Option Node
  | [name, options] => do
      let branches ← selectBranchesOfJson? options
      some (.select (← name.text?) branches)
  | _ => none

/-- The tag for the values behind its type. -/
def tagOfItems? : List Json → Option Node
  | [name, children] => do
      let children ← Message.ofJson? true children
      some (.tag (← name.text?) children)
  | _ => none

/-- The `children` among the entries of a node. -/
def childrenOfEntries? : List (String × Json) → Option Message
  | [] => none
  | (key, value) :: rest =>
      if key = "children" then Message.ofJson? true value else childrenOfEntries? rest

/-- The `options` of a plural among its entries. -/
def pluralOptionsOfEntries? : List (String × Json) → Option (List (PluralKey × Message))
  | [] => none
  | (key, value) :: rest =>
      if key = "options" then pluralBranchesOfJson? value else pluralOptionsOfEntries? rest

/-- The branches of a plural that a value denotes. -/
def pluralBranchesOfJson? : Json → Option (List (PluralKey × Message))
  | .object entries => pluralBranchesOfEntries? [] entries
  | _ => none

/-- The branches of a plural for the entries of an object, added to a table. -/
def pluralBranchesOfEntries? (table : List (PluralKey × Message)) :
    List (String × Json) → Option (List (PluralKey × Message))
  | [] => some table
  | (key, value) :: rest => do
      let key ← PluralKey.ofEntryKey? key
      let body ← Message.ofJson? true value
      pluralBranchesOfEntries? (Table.insert key body table) rest

/-- The `options` of a select among its entries. -/
def selectOptionsOfEntries? : List (String × Json) → Option (List (String × Message))
  | [] => none
  | (key, value) :: rest =>
      if key = "options" then selectBranchesOfJson? value else selectOptionsOfEntries? rest

/-- The branches of a select that a value denotes. -/
def selectBranchesOfJson? : Json → Option (List (String × Message))
  | .object entries => selectBranchesOfEntries? [] entries
  | _ => none

/-- The branches of a select for the entries of an object, added to a table. -/
def selectBranchesOfEntries? (table : List (String × Message)) :
    List (String × Json) → Option (List (String × Message))
  | [] => some table
  | (key, value) :: rest => do
      let body ← Message.ofJson? true value
      selectBranchesOfEntries? (Table.insert key body table) rest

end

end IcuMessage
