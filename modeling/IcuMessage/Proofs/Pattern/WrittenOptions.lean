import IcuMessage.Proofs.Message.OrderedTables
import IcuMessage.Proofs.Pattern.SourceBlocks

/-!
# Written options and the branches that are kept of them

The block of a plural or select writes options: `Nest.options` lists them as they stand,
whatever their texts denote.  No two options of a block that is read have one key text,
and an option with a key text that stood before is reported as a duplicate.  So a select
has a branch for each of its options.

The key texts are compared before they are read as plural keys.  Two texts that spell one
integer in different ways, as `=1` and `=+1` do, pass for different keys, and a plural
keeps of them the later option alone.
-/

namespace IcuMessage

/-! ## Options as they are written -/

/-- An option as it is written: the text in front of its block, the byte offset of that
text, and the nests of the block. -/
structure WrittenOption where
  text : List Char
  start : Nat
  body : List Nest

/-- The options in nests.  `pending` is the text before the next block and starts at the
byte offset `start`. -/
def Nest.options (pending : List Char) (start : Nat) : List Nest → List WrittenOption
  | [] => []
  | .text content offset :: rest => options content offset rest
  | .block children _ :: rest => ⟨pending, start, children⟩ :: options [] 0 rest

/-- The options that the block of a plural or select writes behind its header, for a block
whose content starts at a byte offset.  Those of a plural are in a plural; those of a
select are in one if the select is. -/
inductive Nest.Writes (inPlural : Bool) (start : Nat) :
    List Nest → Bool → List WrittenOption → Prop where
  | plural {content name word tail pending : List Char} {offset wordOffset position : Nat}
      {rest : List Nest} {rule : PluralRule} {shift : Int64}
      (header : Header.read? content = some (.openEnded name word wordOffset tail))
      (known : PluralRule.ofKind? word = some rule)
      (shifted :
        pluralOffset tail (start + (Text.byteWidth content - Text.byteWidth tail)) =
          .ok (shift, pending, position)) :
      Writes inPlural start (.text content offset :: rest) true
        (Nest.options pending position rest)
  | select {content name tail : List Char} {offset wordOffset : Nat} {rest : List Nest}
      (header :
        Header.read? content = some (.openEnded name "select".toList wordOffset tail)) :
      Writes inPlural start (.text content offset :: rest) inPlural
        (Nest.options tail (start + (Text.byteWidth content - Text.byteWidth tail)) rest)

namespace WrittenOption

/-- The key text of an option, with its quoted sections as the text that they stand for. -/
def key (context : ParseContext) (option : WrittenOption) : String :=
  context.unmasked (Text.trim option.text)

/-- The byte offset of the key text. -/
def keyOffset (option : WrittenOption) : Nat :=
  option.start + (Text.byteWidth option.text - Text.byteWidth (Text.trimStart option.text))

/-- An option that can be read by itself: there is one word in front of its block, and its
block is a message. -/
structure Reads (context : ParseContext) (inPlural : Bool) (option : WrittenOption)
    (body : Message) : Prop where
  filled : Text.trim option.text ≠ []
  joined : Text.hasBlank (Text.trim option.text) = false
  message : messageOfNests context inPlural option.body = .ok body

variable {context : ParseContext} {inPlural : Bool} {option : WrittenOption} {body : Message}

theorem Reads.optionKey?
    (reads : option.Reads context inPlural body) :
    context.optionKey? option.text option.start =
      .ok (some (option.key context, option.keyOffset)) := by
  simp [ParseContext.optionKey?, List.isEmpty_iff, reads.filled, reads.joined, key, keyOffset]

end WrittenOption

/-! ## Key texts -/

section Reading

variable {context : ParseContext} {inPlural : Bool} {seen : List String} {pending : List Char}
  {start : Nat} {nests : List Nest} {entries : List (String × Message)}

/-- Options that are read together are read each by itself, and their key texts are
different from one another and from those seen before. -/
theorem OptionsReading.written
    (reading : OptionsReading context inPlural seen pending nests entries) :
    List.Forall₂
        (fun option entry => option.key context = entry.1 ∧ option.Reads context inPlural entry.2)
        (Nest.options pending start nests) entries ∧
      (∀ entry ∈ entries, entry.1 ∉ seen) ∧ (entries.map Prod.fst).Nodup := by
  induction nests generalizing seen pending start entries with
  | nil =>
      cases reading
      exact ⟨.nil, by simp, .nil⟩
  | cons nest rest ih =>
      cases reading with
      | text behind => exact ih behind
      | @block _ _ _ key children _ offset tokens body later denotes fresh inside tree behind =>
          rcases ih behind with
            ⟨read, unseen, distinct⟩
          have message : messageOfNests context inPlural children = .ok body := by
            rw [messageOfNests, messageTokens_eq_ok_iff.mpr inside, ok_bind, tree]
          refine ⟨.cons ⟨denotes.denotes, denotes.filled, denotes.joined, message⟩ read, ?_, ?_⟩
          · refine List.forall_mem_cons.mpr ⟨fresh, fun entry member again => ?_⟩
            exact unseen entry member (List.mem_cons_of_mem _ again)
          · refine List.nodup_cons.mpr ⟨fun again => ?_, distinct⟩
            rcases List.mem_map.mp again with
              ⟨entry, member, same⟩
            exact unseen entry member (same ▸ List.mem_cons_self)

variable {option : WrittenOption} {body : Message} {offset : Nat}

/-- An option whose key has stood before is a duplicate. -/
theorem argumentOptions_of_seen
    (reads : option.Reads context inPlural body)
    (stood : option.key context ∈ seen) :
    argumentOptions context inPlural seen option.text option.start
        (.block option.body offset :: nests) =
      .error ⟨.duplicateOption (option.key context), option.keyOffset⟩ := by
  rw [argumentOptions]
  simp only [reads.optionKey?, List.contains_iff_mem, stood, if_true]

/-- An option with a new key is kept, and the later ones are read with its key among those
that stood. -/
theorem argumentOptions_of_fresh
    (reads : option.Reads context inPlural body)
    (fresh : option.key context ∉ seen) :
    argumentOptions context inPlural seen option.text option.start
        (.block option.body offset :: nests) =
      (argumentOptions context inPlural (option.key context :: seen) [] 0 nests).map
        fun later => ⟨option.key context, body, option.keyOffset⟩ :: later := by
  rcases bind_eq_ok_iff.mp reads.message with
    ⟨tokens, reading, tree⟩
  rw [argumentOptions]
  simp only [reads.optionKey?, List.contains_iff_mem, fresh, if_false, bodyTokens, reading,
    ok_bind, tree]
  cases argumentOptions context inPlural (option.key context :: seen) [] 0 nests <;> rfl

/-- Reading reports the first option whose key text stood before. -/
theorem argumentOptions_duplicate
    {front back : List WrittenOption}
    (written : Nest.options pending start nests = front ++ option :: back)
    (readable : ∀ earlier ∈ front ++ [option], ∃ body, earlier.Reads context inPlural body)
    (distinct : (front.map (WrittenOption.key context)).Nodup)
    (unseen : ∀ earlier ∈ front, earlier.key context ∉ seen)
    (stood : option.key context ∈ seen ∨
      option.key context ∈ front.map (WrittenOption.key context)) :
    argumentOptions context inPlural seen pending start nests =
      .error ⟨.duplicateOption (option.key context), option.keyOffset⟩ := by
  induction nests generalizing seen pending start front with
  | nil => simp [Nest.options] at written
  | cons nest rest ih =>
      cases nest with
      | text content offset =>
          rw [argumentOptions]
          exact ih written readable distinct unseen stood
      | block children offset =>
          cases front with
          | nil =>
              cases written
              rcases readable _ List.mem_cons_self with
                ⟨body, reads⟩
              exact argumentOptions_of_seen reads (by simpa using stood)
          | cons first front =>
              obtain ⟨rfl, later⟩ := List.cons.inj written
              rcases List.forall_mem_cons.mp readable with
                ⟨⟨body, reads⟩, readableLater⟩
              rcases List.forall_mem_cons.mp unseen with
                ⟨fresh, unseenLater⟩
              rcases List.nodup_cons.mp distinct with
                ⟨once, distinctLater⟩
              rw [argumentOptions_of_fresh reads fresh]
              refine map_eq_error_iff.mpr (ih later readableLater distinctLater ?_ ?_)
              · intro earlier member again
                rcases List.mem_cons.mp again with same | before
                · exact once (List.mem_map.mpr ⟨earlier, member, same⟩)
                · exact unseenLater earlier member before
              · rcases stood with before | here
                · exact Or.inl (List.mem_cons_of_mem _ before)
                · rcases List.mem_cons.mp here with same | behind
                  · exact Or.inl (same ▸ List.mem_cons_self)
                  · exact Or.inr behind

end Reading

/-! ## Plural keys -/

/-- Two of the key texts are different and spell the same integer. -/
def SpelledTwice (texts : List String) : Prop :=
  ∃ first ∈ texts, ∃ second ∈ texts, first ≠ second ∧ ∃ value,
    PluralKey.read first = .ok (.exact value) ∧ PluralKey.read second = .ok (.exact value)

namespace PluralKey

/-- A category has one spelling. -/
theorem eq_word_of_read
    {text : String}
    {kind : PluralCategory}
    (denotes : read text = .ok (.category kind)) :
    kind.word = text := by
  rw [read] at denotes
  split at denotes
  case h_1 => split at denotes <;> cases denotes
  case h_2 =>
    split at denotes
    case h_1 known =>
      cases denotes
      have found := List.find?_some known
      simpa using found
    case h_2 => cases denotes

/-- Different key texts denote different keys, unless they spell one integer. -/
theorem nodup_iff_not_spelledTwice
    {texts : List String}
    {keys : List PluralKey}
    (distinct : texts.Nodup)
    (denote : texts.map read = keys.map .ok) :
    keys.Nodup ↔ ¬ SpelledTwice texts := by
  have wrapped : Function.Injective (Except.ok : PluralKey → Except PatternFault PluralKey) :=
    fun _ _ => Except.ok.inj
  have readable : ∀ text ∈ texts, ∃ key, read text = .ok key := by
    intro text member
    have image : read text ∈ keys.map .ok := denote ▸ List.mem_map_of_mem member
    rcases List.mem_map.mp image with
      ⟨key, _, same⟩
    exact ⟨key, same.symm⟩
  rw [← List.nodup_map_iff wrapped, ← denote, List.nodup_map_iff_inj_on distinct]
  constructor
  · rintro injective ⟨first, inFirst, second, inSecond, different, value, reads, readsToo⟩
    exact different (injective first inFirst second inSecond (reads.trans readsToo.symm))
  · intro once first inFirst second inSecond same
    by_contra different
    rcases readable first inFirst with
      ⟨key, reads⟩
    have readsToo := same.symm.trans reads
    cases key with
    | exact value =>
        exact once ⟨first, inFirst, second, inSecond, different, value, reads, readsToo⟩
    | category kind =>
        exact different ((eq_word_of_read reads).symm.trans (eq_word_of_read readsToo))

end PluralKey

/-! ## Branches -/

/-- What the branches of a plural are, by its options as they are written. -/
structure PluralKeeps (context : ParseContext) (written : List WrittenOption)
    (branches : List (PluralKey × Message)) : Prop where
  /-- The key texts are different. -/
  distinct : (written.map (WrittenOption.key context)).Nodup
  /-- Of the options that denote one key the last has a branch, and the others have none. -/
  last : ∃ entries,
    List.Forall₂
        (fun option (entry : PluralKey × Message) =>
          PluralKey.read (option.key context) = .ok entry.1 ∧
            option.Reads context true entry.2)
        written entries ∧
      (∀ key, branches.lookup key = entries.reverse.lookup key) ∧
      (branches.map Prod.fst).Perm (entries.map Prod.fst).dedup
  /-- Each option has a branch just if no integer is spelled in two ways. -/
  complete :
    branches.length = written.length ↔ ¬ SpelledTwice (written.map (WrittenOption.key context))

/-- What the branches of a select are, by its options as they are written. -/
structure SelectKeeps (context : ParseContext) (inPlural : Bool) (written : List WrittenOption)
    (branches : List (String × Message)) : Prop where
  /-- The key texts are different. -/
  distinct : (written.map (WrittenOption.key context)).Nodup
  /-- Each option has its own branch. -/
  all : ∃ entries,
    List.Forall₂
        (fun option (entry : String × Message) =>
          option.key context = entry.1 ∧ option.Reads context inPlural entry.2)
        written entries ∧
      branches.Perm entries
  /-- There are as many branches as options. -/
  complete : branches.length = written.length

/-- A plural or select has the branches that its options make, as they are written. -/
def Node.Keeps (context : ParseContext) (inPlural : Bool) (written : List WrittenOption) :
    Node → Prop
  | .plural _ _ _ branches => PluralKeeps context written branches
  | .select _ branches => SelectKeeps context inPlural written branches
  | .literal _ | .argument _ | .formatted _ _ _ | .pound | .tag _ _ => False

section Keeping

/-- What corresponds to the items of a list corresponds to whatever they correspond to. -/
private theorem forall₂_trans
    {α β γ : Type}
    {first : α → β → Prop}
    {next : β → γ → Prop}
    {whole : α → γ → Prop}
    (joins : ∀ left middle right, first left middle → next middle right → whole left right)
    {lefts : List α}
    {middles : List β}
    {rights : List γ}
    (before : List.Forall₂ first lefts middles)
    (after : List.Forall₂ next middles rights) :
    List.Forall₂ whole lefts rights := by
  induction before generalizing rights with
  | nil =>
      cases after
      exact .nil
  | cons here _ ih =>
      cases after with
      | cons also later => exact .cons (joins _ _ _ here also) (ih later)

variable {context : ParseContext} {inPlural : Bool} {written : List WrittenOption}

theorem map_key_eq
    {entries : List (String × Message)}
    (read : List.Forall₂
      (fun option entry => option.key context = entry.1 ∧ option.Reads context inPlural entry.2)
      written entries) :
    written.map (WrittenOption.key context) = entries.map Prod.fst := by
  rw [← List.forall₂_eq_eq_eq, List.forall₂_map_left_iff, List.forall₂_map_right_iff]
  exact read.imp fun _ _ => And.left

/-- A select keeps every option that is written, because the keys are different texts. -/
theorem SelectKeeps.of_entries
    {entries : List (String × Message)}
    (read : List.Forall₂
      (fun option entry => option.key context = entry.1 ∧ option.Reads context inPlural entry.2)
      written entries)
    (distinct : (entries.map Prod.fst).Nodup) :
    SelectKeeps context inPlural written (Table.ofList entries) where
  distinct := by rwa [map_key_eq read]
  all := ⟨entries, read, Table.ofList_perm distinct⟩
  complete := (Table.ofList_perm distinct).length_eq.trans read.length_eq.symm

/-- A plural keeps the last of the options that have one key. -/
theorem PluralKeeps.of_entries
    {entries : List (String × Message)}
    {branches : List (PluralKey × Message)}
    (read : List.Forall₂
      (fun option entry => option.key context = entry.1 ∧ option.Reads context true entry.2)
      written entries)
    (distinct : (entries.map Prod.fst).Nodup)
    (keyed : PluralBranches entries branches) :
    PluralKeeps context written branches := by
  rw [← map_key_eq read] at distinct
  cases keyed with
  | @intro keyed keys _ =>
      have both : List.Forall₂
          (fun option (entry : PluralKey × Message) =>
            PluralKey.read (option.key context) = .ok entry.1 ∧ option.Reads context true entry.2)
          written keyed :=
        forall₂_trans
          (fun _ _ _ reads keyed => ⟨reads.1 ▸ keyed.1, keyed.2 ▸ reads.2⟩) read keys
      have denote : (written.map (WrittenOption.key context)).map PluralKey.read =
          (keyed.map Prod.fst).map .ok := by
        rw [← List.forall₂_eq_eq_eq]
        simp only [List.map_map, List.forall₂_map_left_iff, List.forall₂_map_right_iff]
        exact both.imp fun _ _ => And.left
      refine ⟨distinct, ⟨keyed, both, fun key => Table.lookup_ofList key keyed,
        Table.keys_ofList_perm keyed⟩, ?_⟩
      rw [← PluralKey.nodup_iff_not_spelledTwice distinct denote, both.length_eq]
      exact Table.length_ofList_eq_iff

end Keeping

section Blocks

variable {context : ParseContext} {inPlural inside : Bool} {start : Nat} {children : List Nest}
  {written : List WrittenOption} {node : Node}

/-- A block that is read as a plural or select writes options. -/
theorem ArgumentReading.exists_writes
    (reading : ArgumentReading context inPlural children node)
    (branching : node.IsBranching)
    (start : Nat) :
    ∃ inside written, Nest.Writes inPlural start children inside written := by
  cases reading with
  | plain => cases branching
  | formatted => cases branching
  | styled => cases branching
  | plural header known shifted =>
      rcases pluralOffset_eq_ok_iff.mpr shifted with
        ⟨position, shifted⟩
      exact ⟨_, _, .plural header known shifted⟩
  | select header => exact ⟨_, _, .select header⟩

/-- A block that reads keeps its written options as branches. -/
theorem Nest.Writes.keeps
    (writes : Nest.Writes inPlural start children inside written)
    (read : argument context inPlural start children = .ok node) :
    node.Keeps context inside written := by
  cases writes with
  | @plural _ _ _ _ _ _ _ _ rest _ _ header known shifted =>
      simp only [argument, header, known, shifted, ok_bind, bind_eq_ok_iff,
        requireOption_eq_ok_iff] at read
      rcases read with
        ⟨options, read, _, ⟨_, rfl⟩, branches, keyed, same⟩
      cases same
      have reading := ((Nest.readByRules context rest).asOptions _ _ _ _ _).mp ⟨options, read, rfl⟩
      rcases reading.written with
        ⟨read, _, distinct⟩
      exact .of_entries read distinct (pluralBranches_eq_ok_iff.mp keyed)
  | @select _ _ _ _ _ rest header =>
      rcases ((Nest.readByRules context rest).argument_select header).mp read with
        ⟨entries, reading, _, rfl⟩
      rcases reading.written with
        ⟨read, _, distinct⟩
      exact .of_entries read distinct

/-- A block with an option whose key has stood before is refused for that option. -/
theorem Nest.Writes.duplicate
    {front back : List WrittenOption}
    {option : WrittenOption}
    (writes : Nest.Writes inPlural start children inside (front ++ option :: back))
    (readable : ∀ earlier ∈ front ++ [option], ∃ body, earlier.Reads context inside body)
    (distinct : (front.map (WrittenOption.key context)).Nodup)
    (stood : option.key context ∈ front.map (WrittenOption.key context)) :
    argument context inPlural start children =
      .error ⟨.duplicateOption (option.key context), option.keyOffset⟩ := by
  have noPlural : PluralRule.ofKind? "select".toList = none := by decide
  have reported (pending : List Char) (position : Nat) (rest : List Nest)
      (whole : Nest.options pending position rest = front ++ option :: back) :
      argumentOptions context inside [] pending position rest =
        .error ⟨.duplicateOption (option.key context), option.keyOffset⟩ :=
    argumentOptions_duplicate whole readable distinct (fun _ _ => List.not_mem_nil)
      (Or.inr stood)
  generalize whole : front ++ option :: back = written at writes
  cases writes with
  | plural header known shifted =>
      simp only [argument, header, known, shifted, ok_bind, reported _ _ _ whole.symm, error_bind]
  | select header =>
      simp only [argument, header, noPlural, if_true, reported _ _ _ whole.symm, error_bind]

end Blocks

/-! ## Patterns -/

/-- What the reading of the masked text of a pattern depends on. -/
def ParseContext.ofPattern (ignoreTags : Bool) (pattern : String) : ParseContext :=
  ⟨(Masked.ofPattern pattern.toList).quotes, ignoreTags⟩

/-- Each plural and select of the message of a pattern is what one of the blocks of the
pattern is read as.  Such a block has different key texts, and an option with a key text
that stood before is reported as a duplicate.  A select has a branch for each option of its
block.  A plural has one for each key that its options denote, with the message of the last
of them; it has as many branches as options just if no integer is spelled in two ways. -/
theorem branches_of_written_options
    {ignoreTags : Bool}
    {pattern : String}
    {message : Message}
    (parsed : parse ignoreTags pattern = .ok message) :
    ∃ nests,
      Nest.read (Masked.ofPattern pattern.toList).text 0 = .ok nests ∧
        (∀ node, message.Contains node → node.IsBranching →
          ∃ children start inPlural inside written,
            Nest.HasBlock children start nests ∧
              argument (.ofPattern ignoreTags pattern) inPlural start children = .ok node ∧
              Nest.Writes inPlural start children inside written) ∧
        ∀ children start inPlural inside written,
          Nest.Writes inPlural start children inside written →
            (∀ node,
              argument (.ofPattern ignoreTags pattern) inPlural start children = .ok node →
                node.Keeps (.ofPattern ignoreTags pattern) inside written) ∧
            ∀ front option back,
              written = front ++ option :: back →
                (∀ earlier ∈ front ++ [option], ∃ body,
                  earlier.Reads (.ofPattern ignoreTags pattern) inside body) →
                (front.map (WrittenOption.key (.ofPattern ignoreTags pattern))).Nodup →
                option.key (.ofPattern ignoreTags pattern) ∈
                  front.map (WrittenOption.key (.ofPattern ignoreTags pattern)) →
                argument (.ofPattern ignoreTags pattern) inPlural start children =
                  .error ⟨.duplicateOption (option.key (.ofPattern ignoreTags pattern)),
                    option.keyOffset⟩ := by
  rcases parse_eq_ok_iff.mp parsed with
    ⟨nests, tokens, nested, reading, tree⟩
  have origins : message.FromBlocks (.ofPattern ignoreTags pattern) nests :=
    .assemble tree reading.fromBlocks
  refine ⟨nests, nested, ?_, ?_⟩
  · intro node contained branching
    rcases origins node contained branching with
      ⟨children, start, inPlural, block, reading⟩
    rcases reading.exists_writes branching start with
      ⟨inside, written, writes⟩
    have read := ((Nest.readByRules _ children).asArgument inPlural start node).mpr reading
    exact ⟨children, start, inPlural, inside, written, block, read, writes⟩
  · intro children start inPlural inside written writes
    refine ⟨fun node read => writes.keeps read, ?_⟩
    rintro front option back rfl readable distinct stood
    exact writes.duplicate readable distinct stood

/-- A select in a plural in a tag. -/
def choicesPattern : String :=
  "<b>\x7bn, plural, =1 \x7bone\x7d other " ++
    "\x7b\x7bg, select, a \x7bx\x7d 'b' \x7by\x7d other \x7bz\x7d\x7d\x7d\x7d</b>"

/-- The select that `choicesPattern` holds. -/
def choicesSelect : Node :=
  .select "g" [("'b'", [.literal "y"]), ("a", [.literal "x"]), ("other", [.literal "z"])]

/-- The select of `choicesPattern` keeps its three options, one of them with apostrophes
in its key. -/
theorem branches_of_written_options_choices :
    ∃ message nests,
      parse false choicesPattern = .ok message ∧
        message.Contains choicesSelect ∧
        Nest.read (Masked.ofPattern choicesPattern.toList).text 0 = .ok nests ∧
        ∃ children start inPlural inside written,
          Nest.HasBlock children start nests ∧
            argument (.ofPattern false choicesPattern) inPlural start children =
              .ok choicesSelect ∧
            Nest.Writes inPlural start children inside written ∧
            written.length = 3 := by
  have parsed : parse false choicesPattern =
      .ok [.tag "b"
        [.plural "n" .cardinal 0 [(.exact 1, [.literal "one"]), (.other, [choicesSelect])]]] := by
    decide +kernel
  have contained : Message.Contains choicesSelect
      [.tag "b"
        [.plural "n" .cardinal 0 [(.exact 1, [.literal "one"]), (.other, [choicesSelect])]]] :=
    .inTag (.inPlural (List.mem_cons_of_mem _ List.mem_cons_self) .first)
  rcases branches_of_written_options parsed with
    ⟨nests, nested, origins, keeps⟩
  rcases origins choicesSelect contained trivial with
    ⟨children, start, inPlural, inside, written, block, read, writes⟩
  have kept : SelectKeeps _ inside written _ := (keeps _ _ _ _ _ writes).1 _ read
  exact ⟨_, nests, parsed, contained, nested, children, start, inPlural, inside, written, block,
    read, writes, kept.complete.symm⟩

/-- One integer with and without a plus sign, as the keys of two options. -/
def signedOnePattern : String :=
  "\x7bn, plural, =1 \x7ba\x7d =+1 \x7bb\x7d other \x7bc\x7d\x7d"

/-- The nests of the plural of `signedOnePattern`. -/
def signedOneChildren : List Nest :=
  [.text "n, plural, =1 ".toList 1, .block [.text ['a'] 16] 16, .text " =+1 ".toList 18,
    .block [.text ['b'] 24] 24, .text " other ".toList 26, .block [.text ['c'] 34] 34]

/-- A pattern that is accepted writes three options for a plural with two branches: the
options `=1` and `=+1` have one key, and the first of them is dropped. -/
theorem signed_integer_drops_branch :
    Nest.read (Masked.ofPattern signedOnePattern.toList).text 0 =
        .ok [.block signedOneChildren 1] ∧
      (∃ written, Nest.Writes false 1 signedOneChildren true written ∧ written.length = 3) ∧
      parse false signedOnePattern =
        .ok [.plural "n" .cardinal 0 [(.exact 1, [.literal "b"]), (.other, [.literal "c"])]] := by
  have header : Header.read? "n, plural, =1 ".toList =
      some (.openEnded ['n'] "plural".toList 3 " =1 ".toList) := by
    decide
  have known : PluralRule.ofKind? "plural".toList = some .cardinal := by
    decide
  exact ⟨rfl, ⟨_, .plural header known rfl, rfl⟩, by decide +kernel⟩

end IcuMessage
