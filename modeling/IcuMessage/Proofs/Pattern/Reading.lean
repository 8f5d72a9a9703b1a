import IcuMessage.Pattern.Parser
import IcuMessage.Proofs.Outcome
import IcuMessage.Proofs.Pattern.Nesting
import Mathlib.Data.List.Forall2

/-!
# The reading of nests, by rules

The rules here say which tokens nests read as, which node the nests of a block
read as, and which options the nests behind the header of an argument read as.
They speak of success alone: the byte offsets that the parser carries along for
its errors have no part in them, and neither has the order of its checks.

The main statements are `messageTokens_eq_ok_iff` and `parse_eq_ok_iff`: the
parser reads exactly what the rules read.
-/

namespace IcuMessage

/-- The offset of a plural and the text of its options, behind the second comma. -/
inductive PluralOffset (text : List Char) : Int64 → List Char → Prop where
  | absent
      (absent : Header.offsetClause? text = none) :
      PluralOffset text 0 text
  | given {digits rest : List Char} {offset : Int64}
      (clause : Header.offsetClause? text = some (digits, rest))
      (read : Text.readInt64? digits = some offset) :
      PluralOffset text offset rest

/-- The text before the block of an option denotes a key. -/
structure ParseContext.IsKey (context : ParseContext) (text : List Char) (key : String) :
    Prop where
  filled : Text.trim text ≠ []
  joined : Text.hasBlank (Text.trim text) = false
  denotes : context.unmasked (Text.trim text) = key

/-- A style denotes itself behind the second comma of an argument. -/
inductive ParseContext.IsStyle (context : ParseContext) (text : List Char) : Style → Prop where
  | skeleton {skeleton : List Char}
      (behindColons :
        Text.afterPrefix? [':', ':'] (unmask context.quotes (Text.trim text)) = some skeleton) :
      IsStyle context text (.skeleton (String.ofList (Text.trim skeleton)))
  | named
      (filled : unmask context.quotes (Text.trim text) ≠ [])
      (noColons :
        Text.afterPrefix? [':', ':'] (unmask context.quotes (Text.trim text)) = none) :
      IsStyle context text (.named (context.unmasked (Text.trim text)))

/-- Options with their keys read are the branches of a plural. -/
inductive PluralBranches
    (options : List (String × Message)) : List (PluralKey × Message) → Prop where
  | intro {keyed : List (PluralKey × Message)}
      (keys : List.Forall₂
        (fun option branch =>
          PluralKey.read option.1 = .ok branch.1 ∧ option.2 = branch.2)
        options keyed)
      (other : ((Table.ofList keyed).lookup .other).isSome) :
      PluralBranches options (Table.ofList keyed)

mutual

/-- The tokens that nests read as. -/
inductive MessageReading (context : ParseContext) :
    Bool → List Nest → List Token → Prop where
  | nil {inPlural : Bool} : MessageReading context inPlural [] []
  | text {inPlural : Bool} {content : List Char} {offset : Nat} {rest : List Nest}
      {later : List Token}
      (behind : MessageReading context inPlural rest later) :
      MessageReading context inPlural (.text content offset :: rest)
        (context.textTokens inPlural 0 [] offset content ++ later)
  | block {inPlural : Bool} {children rest : List Nest} {offset : Nat} {node : Node}
      {later : List Token}
      (argument : ArgumentReading context inPlural children node)
      (behind : MessageReading context inPlural rest later) :
      MessageReading context inPlural (.block children offset :: rest) (.node node :: later)

/-- The node that the nests of a block read as. -/
inductive ArgumentReading (context : ParseContext) :
    Bool → List Nest → Node → Prop where
  | plain {inPlural : Bool} {content name : List Char} {offset : Nat}
      (header : Header.read? content = some (.bare name)) :
      ArgumentReading context inPlural [.text content offset] (.argument (String.ofList name))
  | formatted {inPlural : Bool} {content name word : List Char} {offset wordOffset : Nat}
      {category : Category}
      (header : Header.read? content = some (.kind name word wordOffset))
      (known : Category.ofWord? (String.ofList word) = some category) :
      ArgumentReading context inPlural [.text content offset]
        (.formatted category (String.ofList name) none)
  | styled {inPlural : Bool} {content name word tail : List Char} {offset wordOffset : Nat}
      {rest : List Nest} {category : Category} {style : Style}
      (header : Header.read? content = some (.openEnded name word wordOffset tail))
      (known : Category.ofWord? (String.ofList word) = some category)
      (denotes : context.IsStyle (tail ++ Nest.sourceList rest) style) :
      ArgumentReading context inPlural (.text content offset :: rest)
        (.formatted category (String.ofList name) (some style))
  | plural {inPlural : Bool} {content name word tail pending : List Char}
      {offset wordOffset : Nat} {rest : List Nest} {rule : PluralRule} {shift : Int64}
      {options : List (String × Message)} {branches : List (PluralKey × Message)}
      (header : Header.read? content = some (.openEnded name word wordOffset tail))
      (known : PluralRule.ofKind? word = some rule)
      (shifted : PluralOffset tail shift pending)
      (inside : OptionsReading context true [] pending rest options)
      (keyed : PluralBranches options branches) :
      ArgumentReading context inPlural (.text content offset :: rest)
        (.plural (String.ofList name) rule shift branches)
  | select {inPlural : Bool} {content name tail : List Char} {offset wordOffset : Nat}
      {rest : List Nest} {options : List (String × Message)}
      (header :
        Header.read? content = some (.openEnded name "select".toList wordOffset tail))
      (inside : OptionsReading context inPlural [] tail rest options)
      (other : ((Table.ofList options).lookup otherKey).isSome) :
      ArgumentReading context inPlural (.text content offset :: rest)
        (.select (String.ofList name) (Table.ofList options))

/-- The options that nests read as, behind the keys already seen and the text
before the next block. -/
inductive OptionsReading (context : ParseContext) :
    Bool → List String → List Char → List Nest → List (String × Message) → Prop where
  | nil {inPlural : Bool} {seen : List String} {pending : List Char}
      (blank : Text.trim pending = []) :
      OptionsReading context inPlural seen pending [] []
  | text {inPlural : Bool} {seen : List String} {pending content : List Char}
      {offset : Nat} {rest : List Nest} {options : List (String × Message)}
      (behind : OptionsReading context inPlural seen content rest options) :
      OptionsReading context inPlural seen pending (.text content offset :: rest) options
  | block {inPlural : Bool} {seen : List String} {pending : List Char} {key : String}
      {children rest : List Nest} {offset : Nat} {tokens : List Token} {body : Message}
      {options : List (String × Message)}
      (denotes : context.IsKey pending key)
      (fresh : key ∉ seen)
      (inside : MessageReading context inPlural children tokens)
      (tree : assemble tokens = .ok body)
      (behind : OptionsReading context inPlural (key :: seen) [] rest options) :
      OptionsReading context inPlural seen pending (.block children offset :: rest)
        ((key, body) :: options)

end

/-- An option without the byte offset of its key. -/
def ParsedOption.entry (option : ParsedOption) : String × Message :=
  (option.key, option.body)

/-- The offset of a plural is read as the rules for offsets say. -/
theorem pluralOffset_eq_ok_iff
    {text rest : List Char}
    {start : Nat}
    {offset : Int64} :
    (∃ position, pluralOffset text start = .ok (offset, rest, position)) ↔
      PluralOffset text offset rest := by
  constructor
  · rintro ⟨position, read⟩
    simp only [pluralOffset] at read
    split at read
    case h_1 absent =>
      cases read
      exact .absent absent
    case h_2 digits behind clause =>
      split at read
      case h_1 number denotes =>
        cases read
        exact .given clause denotes
      case h_2 => cases read
  · intro offset
    cases offset with
    | absent absent => exact ⟨start, by simp [pluralOffset, absent]⟩
    | given clause read => exact ⟨_, by simp only [pluralOffset, clause, read]; rfl⟩

theorem requireOption_eq_ok_iff
    {start : Nat}
    {options result : List ParsedOption} :
    requireOption start options = .ok result ↔ options ≠ [] ∧ options = result := by
  cases options <;> simp [requireOption]

namespace ParseContext

variable {context : ParseContext}

/-- A style is read as the rules for styles say. -/
theorem style_eq_ok_iff {text : List Char} {offset : Nat} {style : Style} :
    context.style text offset = .ok style ↔ context.IsStyle text style := by
  simp only [ParseContext.style, List.isEmpty_iff]
  constructor
  · intro read
    split at read
    case isTrue => cases read
    case isFalse filled =>
      split at read
      case h_1 skeleton behind =>
        cases read
        exact .skeleton behind
      case h_2 noColons =>
        cases read
        exact .named filled noColons
  · intro denotes
    cases denotes with
    | skeleton behind =>
        have filled : unmask context.quotes (Text.trim text) ≠ [] := by
          intro empty
          rw [empty] at behind
          cases behind
        simp [filled, behind]
    | named filled noColons => simp [filled, noColons, unmasked]

theorem optionKey?_eq_none_iff {text : List Char} {start : Nat} :
    context.optionKey? text start = .ok none ↔ Text.trim text = [] := by
  simp only [optionKey?, List.isEmpty_iff]
  split
  case isTrue blank => simp [blank]
  case isFalse filled => split <;> simp [filled]

/-- A key is read as the rules for keys say. -/
theorem optionKey?_eq_some_iff {text : List Char} {start : Nat} {key : String} :
    (∃ position, context.optionKey? text start = .ok (some (key, position))) ↔
      context.IsKey text key := by
  simp only [optionKey?, List.isEmpty_iff]
  constructor
  · rintro ⟨position, read⟩
    split at read
    case isTrue => cases read
    case isFalse filled =>
      split at read
      case isTrue => cases read
      case isFalse joined =>
        cases read
        exact ⟨filled, by simpa using joined, rfl⟩
  · rintro ⟨filled, joined, denotes⟩
    exact ⟨_, by simp [filled, joined, denotes]; rfl⟩

/-- A placeholder with a category is read exactly if the word is that of a category. -/
theorem formatted_eq_ok_iff
    {name kind : List Char}
    {offset : Nat}
    {style : Option Style}
    {node : Node} :
    formatted name kind offset style = .ok node ↔
      ∃ category, Category.ofWord? (String.ofList kind) = some category ∧
        .formatted category (String.ofList name) style = node := by
  rw [formatted]
  cases Category.ofWord? (String.ofList kind) <;> simp

end ParseContext

/-- Reading the keys one after the other is reading all of them. -/
private theorem foldlM_insert_eq_ok_iff
    {options : List ParsedOption}
    {table branches : List (PluralKey × Message)} :
    options.foldlM
        (fun table option =>
          match PluralKey.read option.key with
          | .ok key => Except.ok (Table.insert key option.body table)
          | .error fault => Except.error (PatternError.mk fault option.keyOffset))
        table = .ok branches ↔
      ∃ keyed : List (PluralKey × Message),
        List.Forall₂
          (fun option branch => PluralKey.read option.1 = .ok branch.1 ∧ option.2 = branch.2)
          (options.map ParsedOption.entry) keyed ∧
        keyed.foldl (fun table entry => Table.insert entry.1 entry.2 table) table = branches := by
  induction options generalizing table with
  | nil => simp [pure, Except.pure]
  | cons option rest ih =>
      rw [List.foldlM_cons]
      constructor
      · intro read
        cases denotes : PluralKey.read option.key with
        | error fault => simp [denotes] at read
        | ok key =>
            simp only [denotes, ok_bind] at read
            rcases ih.mp read with
              ⟨keyed, keys, same⟩
            exact ⟨(key, option.body) :: keyed, .cons ⟨denotes, rfl⟩ keys, same⟩
      · rintro ⟨keyed, keys, same⟩
        obtain ⟨⟨key, body⟩, later, ⟨denotes, rfl⟩, laterKeys, rfl⟩ :=
          List.forall₂_cons_left_iff.mp keys
        have denotes : PluralKey.read option.key = .ok key := denotes
        simp only [denotes, ok_bind]
        exact ih.mpr ⟨later, laterKeys, same⟩

/-- Options become plural branches as the rules for their keys say. -/
theorem pluralBranches_eq_ok_iff
    {name : String}
    {start : Nat}
    {options : List ParsedOption}
    {branches : List (PluralKey × Message)} :
    pluralBranches name start options = .ok branches ↔
      PluralBranches (options.map ParsedOption.entry) branches := by
  rw [pluralBranches, bind_eq_ok_iff]
  constructor
  · rintro ⟨table, read, present⟩
    rcases foldlM_insert_eq_ok_iff.mp read with
      ⟨keyed, keys, rfl⟩
    split at present
    case isFalse => cases present
    case isTrue other =>
      cases present
      exact .intro keys other
  · intro branches
    cases branches with
    | intro keys other =>
        refine ⟨_, foldlM_insert_eq_ok_iff.mpr ⟨_, keys, rfl⟩, ?_⟩
        exact if_pos other

/-- Options become select branches exactly if `other` is among them. -/
theorem selectBranches_eq_ok_iff
    {name : String}
    {start : Nat}
    {options : List ParsedOption}
    {branches : List (String × Message)} :
    selectBranches name start options = .ok branches ↔
      Table.ofList (options.map ParsedOption.entry) = branches ∧
        (branches.lookup otherKey).isSome := by
  simp only [selectBranches, show (fun option : ParsedOption => (option.key, option.body)) =
    ParsedOption.entry from rfl]
  split
  case isTrue other =>
    constructor
    · intro same
      cases same
      exact ⟨rfl, other⟩
    · rintro ⟨rfl, _⟩
      rfl
  case isFalse missing =>
    constructor
    · intro impossible
      cases impossible
    · rintro ⟨rfl, other⟩
      exact absurd other missing

/-- Nests are read as the rules say, whatever the parser takes them for. -/
structure Nest.ReadByRules (context : ParseContext) (nests : List Nest) : Prop where
  asMessage : ∀ inPlural tokens,
    messageTokens context inPlural nests = .ok tokens ↔
      MessageReading context inPlural nests tokens
  asArgument : ∀ inPlural start node,
    argument context inPlural start nests = .ok node ↔
      ArgumentReading context inPlural nests node
  asOptions : ∀ inPlural seen pending start entries,
    (∃ options,
      argumentOptions context inPlural seen pending start nests = .ok options ∧
        options.map ParsedOption.entry = entries) ↔
      OptionsReading context inPlural seen pending nests entries

namespace Nest.ReadByRules

variable {context : ParseContext} {rest : List Nest}

theorem nil : ReadByRules context [] where
  asMessage inPlural tokens := by
    rw [messageTokens]
    constructor
    · intro read
      cases read
      exact .nil
    · intro reading
      cases reading
      rfl
  asArgument inPlural start node := by
    rw [argument]
    constructor
    · intro read
      cases read
    · intro reading
      cases reading
  asOptions inPlural seen pending start entries := by
    rw [argumentOptions]
    constructor
    · rintro ⟨options, read, rfl⟩
      split at read
      case h_1 => cases read
      case h_2 blank =>
        cases read
        exact .nil (ParseContext.optionKey?_eq_none_iff.mp blank)
      case h_3 => cases read
    · intro reading
      cases reading with
      | nil blank =>
          rw [ParseContext.optionKey?_eq_none_iff.mpr blank]
          exact ⟨[], rfl, rfl⟩

/-- An argument with the word of a plural is read by its offset, its options and their
keys. -/
theorem argument_plural
    (behind : ReadByRules context rest)
    {inPlural : Bool}
    {start offset wordOffset : Nat}
    {content name word tail : List Char}
    {rule : PluralRule}
    {node : Node}
    (header : Header.read? content = some (.openEnded name word wordOffset tail))
    (known : PluralRule.ofKind? word = some rule) :
    argument context inPlural start (.text content offset :: rest) = .ok node ↔
      ∃ shift pending options branches,
        PluralOffset tail shift pending ∧
          OptionsReading context true [] pending rest options ∧
          PluralBranches options branches ∧
          .plural (String.ofList name) rule shift branches = node := by
  simp only [argument, header, known, bind_eq_ok_iff, Prod.exists, requireOption_eq_ok_iff]
  constructor
  · rintro ⟨shift, pending, position, shifted, options, read, _, ⟨_, rfl⟩, branches, keyed, same⟩
    refine ⟨shift, pending, options.map ParsedOption.entry, branches, ?_, ?_, ?_, ?_⟩
    · exact pluralOffset_eq_ok_iff.mp ⟨position, shifted⟩
    · exact (behind.asOptions _ _ _ _ _).mp ⟨options, read, rfl⟩
    · exact pluralBranches_eq_ok_iff.mp keyed
    · exact Except.ok.inj same
  · rintro ⟨shift, pending, entries, branches, shifted, inside, keyed, rfl⟩
    rcases pluralOffset_eq_ok_iff.mpr shifted with
      ⟨position, shifted⟩
    rcases (behind.asOptions _ _ _ _ _).mpr inside with
      ⟨options, read, rfl⟩
    have filled : options ≠ [] := by
      rintro rfl
      cases keyed with
      | intro keys other =>
          cases List.forall₂_nil_left_iff.mp keys
          cases other
    exact ⟨shift, pending, position, shifted, options, read, options, ⟨filled, rfl⟩, branches,
      pluralBranches_eq_ok_iff.mpr keyed, rfl⟩

/-- An argument with the word `select` is read by its options. -/
theorem argument_select
    (behind : ReadByRules context rest)
    {inPlural : Bool}
    {start offset wordOffset : Nat}
    {content name tail : List Char}
    {node : Node}
    (header : Header.read? content = some (.openEnded name "select".toList wordOffset tail)) :
    argument context inPlural start (.text content offset :: rest) = .ok node ↔
      ∃ options,
        OptionsReading context inPlural [] tail rest options ∧
          ((Table.ofList options).lookup otherKey).isSome ∧
          .select (String.ofList name) (Table.ofList options) = node := by
  have unknown : PluralRule.ofKind? "select".toList = none := by decide
  simp only [argument, header, unknown, if_true, bind_eq_ok_iff, requireOption_eq_ok_iff,
    selectBranches_eq_ok_iff]
  constructor
  · rintro ⟨options, read, _, ⟨_, rfl⟩, _, ⟨rfl, other⟩, same⟩
    refine ⟨options.map ParsedOption.entry, ?_, other, Except.ok.inj same⟩
    exact (behind.asOptions _ _ _ _ _).mp ⟨options, read, rfl⟩
  · rintro ⟨entries, inside, other, rfl⟩
    rcases (behind.asOptions _ _ _ _ _).mpr inside with
      ⟨options, read, rfl⟩
    have filled : options ≠ [] := by
      rintro rfl
      cases other
    exact ⟨options, read, options, ⟨filled, rfl⟩, _, ⟨rfl, other⟩, rfl⟩

/-- Any other word has to be that of a category, and the rest of the text its style. -/
theorem argument_styled
    {inPlural : Bool}
    {start offset wordOffset : Nat}
    {content name word tail : List Char}
    {node : Node}
    (header : Header.read? content = some (.openEnded name word wordOffset tail))
    (notPlural : PluralRule.ofKind? word = none)
    (notSelect : word ≠ "select".toList) :
    argument context inPlural start (.text content offset :: rest) = .ok node ↔
      ∃ category style,
        Category.ofWord? (String.ofList word) = some category ∧
          context.IsStyle (tail ++ Nest.sourceList rest) style ∧
          .formatted category (String.ofList name) (some style) = node := by
  simp only [argument, header, notPlural, if_neg notSelect, bind_eq_ok_iff,
    ParseContext.style_eq_ok_iff, ParseContext.formatted_eq_ok_iff]
  constructor
  · rintro ⟨style, denotes, category, known, same⟩
    exact ⟨category, style, known, denotes, same⟩
  · rintro ⟨category, style, known, denotes, same⟩
    exact ⟨style, denotes, category, known, same⟩

/-- The words of categories name neither plurals nor selects. -/
theorem ofKind?_eq_none_of_category
    {word : List Char}
    {category : Category}
    (known : Category.ofWord? (String.ofList word) = some category) :
    PluralRule.ofKind? word = none ∧ word ≠ "select".toList := by
  have spelled : category.word = String.ofList word := by
    have found := List.find?_some known
    simpa using found
  have letters : word = category.word.toList := by
    rw [spelled, String.toList_ofList]
  subst letters
  cases category <;> decide

/-- An argument is read as the rules say for its header. -/
theorem argument_text
    (behind : ReadByRules context rest)
    {inPlural : Bool}
    {start offset : Nat}
    {content : List Char}
    {node : Node} :
    argument context inPlural start (.text content offset :: rest) = .ok node ↔
      ArgumentReading context inPlural (.text content offset :: rest) node := by
  constructor
  · intro read
    cases header : Header.read? content with
    | none => simp [argument, header] at read
    | some found =>
        cases found with
        | bare name =>
            simp only [argument, header, List.isEmpty_iff] at read
            split at read
            case isTrue alone =>
              cases read
              subst alone
              exact .plain header
            case isFalse => cases read
        | kind name word wordOffset =>
            simp only [argument, header, List.isEmpty_iff] at read
            split at read
            case isTrue alone =>
              subst alone
              rcases ParseContext.formatted_eq_ok_iff.mp read with
                ⟨category, known, rfl⟩
              exact .formatted header known
            case isFalse => cases read
        | openEnded name word wordOffset tail =>
            cases known : PluralRule.ofKind? word with
            | some rule =>
                obtain ⟨shift, pending, options, branches, shifted, inside, keyed, rfl⟩ :=
                  (behind.argument_plural header known).mp read
                exact .plural header known shifted inside keyed
            | none =>
                by_cases select : word = "select".toList
                · subst select
                  rcases (behind.argument_select header).mp read with
                    ⟨options, inside, other, rfl⟩
                  exact .select header inside other
                · obtain ⟨category, style, known, denotes, rfl⟩ :=
                    (argument_styled header known select).mp read
                  exact .styled header known denotes
  · intro reading
    cases reading with
    | plain header => simp [argument, header]
    | formatted header known =>
        simp only [argument, header, List.isEmpty_nil, if_true]
        exact ParseContext.formatted_eq_ok_iff.mpr ⟨_, known, rfl⟩
    | styled header known denotes =>
        rcases ofKind?_eq_none_of_category known with
          ⟨notPlural, notSelect⟩
        exact (argument_styled header notPlural notSelect).mpr ⟨_, _, known, denotes, rfl⟩
    | plural header known shifted inside keyed =>
        exact (behind.argument_plural header known).mpr
          ⟨_, _, _, _, shifted, inside, keyed, rfl⟩
    | select header inside other =>
        exact (behind.argument_select header).mpr ⟨_, inside, other, rfl⟩

/-- Text in front of nests that are read by the rules is read by them as well. -/
theorem text
    (content : List Char)
    (offset : Nat)
    (behind : ReadByRules context rest) :
    ReadByRules context (.text content offset :: rest) where
  asMessage inPlural tokens := by
    simp only [messageTokens, nestTokens, ok_bind, bind_eq_ok_iff, behind.asMessage]
    constructor
    · rintro ⟨later, reading, same⟩
      cases same
      exact .text reading
    · intro reading
      cases reading with
      | text reading => exact ⟨_, reading, rfl⟩
  asArgument inPlural start node := behind.argument_text
  asOptions inPlural seen pending start entries := by
    rw [argumentOptions]
    constructor
    · intro read
      exact .text ((behind.asOptions _ _ _ _ _).mp read)
    · intro reading
      cases reading with
      | text reading => exact (behind.asOptions _ _ _ _ _).mpr reading

/-- A block is the message of the key before it. -/
theorem options_block
    {children : List Nest}
    (inside : ReadByRules context children)
    (behind : ReadByRules context rest)
    {inPlural : Bool}
    {seen : List String}
    {pending : List Char}
    {start offset : Nat}
    {entries : List (String × Message)} :
    (∃ options,
      argumentOptions context inPlural seen pending start (.block children offset :: rest) =
          .ok options ∧
        options.map ParsedOption.entry = entries) ↔
      OptionsReading context inPlural seen pending (.block children offset :: rest) entries := by
  constructor
  · rintro ⟨options, read, rfl⟩
    rw [argumentOptions] at read
    split at read
    case h_1 => cases read
    case h_2 => cases read
    case h_3 key position found =>
      split at read
      case isTrue => cases read
      case isFalse fresh =>
        simp only [bodyTokens, bind_eq_ok_iff, inside.asMessage] at read
        rcases read with
          ⟨tokens, reading, body, tree, later, readLater, same⟩
        cases same
        have fresh : key ∉ seen := by simpa using fresh
        exact .block (ParseContext.optionKey?_eq_some_iff.mp ⟨position, found⟩) fresh reading tree
          ((behind.asOptions _ _ _ _ _).mp ⟨later, readLater, rfl⟩)
  · intro reading
    cases reading with
    | block denotes fresh reading tree readLater =>
        rcases ParseContext.optionKey?_eq_some_iff.mpr denotes with
          ⟨position, found⟩
        rcases (behind.asOptions _ _ _ 0 _).mpr readLater with
          ⟨later, laterRead, rfl⟩
        refine ⟨⟨_, _, position⟩ :: later, ?_, rfl⟩
        rw [argumentOptions, found]
        simp only [List.contains_iff_mem, fresh, if_false, bodyTokens,
          (inside.asMessage _ _).mpr reading, ok_bind, tree, laterRead]

/-- A block in front of nests that are read by the rules is read by them as well. -/
theorem block
    {children : List Nest}
    (offset : Nat)
    (inside : ReadByRules context children)
    (behind : ReadByRules context rest) :
    ReadByRules context (.block children offset :: rest) where
  asMessage inPlural tokens := by
    simp only [messageTokens, nestTokens, bind_eq_ok_iff, inside.asArgument, behind.asMessage,
      Except.ok.injEq]
    constructor
    · rintro ⟨_, ⟨node, argument, rfl⟩, later, reading, rfl⟩
      exact .block argument reading
    · intro reading
      cases reading with
      | block argument reading => exact ⟨_, ⟨_, argument, rfl⟩, _, reading, rfl⟩
  asArgument inPlural start node := by
    rw [argument]
    constructor
    · intro read
      cases read
    · intro reading
      cases reading
  asOptions inPlural seen pending start entries := inside.options_block behind

end Nest.ReadByRules

/-- The reader of nests and the rules agree on what is a message, an argument and a list
of options. -/
theorem Nest.readByRules (context : ParseContext) (nests : List Nest) :
    Nest.ReadByRules context nests := by
  induction nests using Nest.induct with
  | nil => exact .nil
  | text content offset rest behind => exact .text content offset behind
  | block children offset rest inside behind => exact .block offset inside behind

theorem messageTokens_eq_ok_iff
    {context : ParseContext}
    {inPlural : Bool}
    {nests : List Nest}
    {tokens : List Token} :
    messageTokens context inPlural nests = .ok tokens ↔
      MessageReading context inPlural nests tokens :=
  (Nest.readByRules context nests).asMessage inPlural tokens

/-- A pattern is a message if its masked text nests, the nests read as tokens,
and the tags of the tokens pair. -/
theorem parse_eq_ok_iff
    {ignoreTags : Bool}
    {pattern : String}
    {message : Message} :
    parse ignoreTags pattern = .ok message ↔
      ∃ nests tokens,
        Nest.read (Masked.ofPattern pattern.toList).text 0 = .ok nests ∧
          MessageReading ⟨(Masked.ofPattern pattern.toList).quotes, ignoreTags⟩ false nests tokens ∧
          assemble tokens = .ok message := by
  simp only [parse, mapError_eq_ok_iff, messageOfText, messageOfNests, bind_eq_ok_iff, messageTokens_eq_ok_iff]
  constructor
  · rintro ⟨nests, nested, tokens, reading, tree⟩
    exact ⟨nests, tokens, nested, reading, tree⟩
  · rintro ⟨nests, tokens, nested, reading, tree⟩
    exact ⟨nests, nested, tokens, reading, tree⟩

end IcuMessage
