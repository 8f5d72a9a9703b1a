import IcuMessage.Proofs.Message.OrderedTables
import IcuMessage.Proofs.Pattern.Lookalikes
import IcuMessage.Proofs.Pattern.PrintedOptions

/-!
# Printing and parsing

The notation of a message that the notation can express parses as the message
(`parse_print`).  The induction is on what can be expressed; it carries the text
that follows a message, since a literal ends, and a tag closes, only there.
-/

namespace IcuMessage

/-- The branches of a plural read back from their written keys. -/
theorem OptionsReadBack.written
    {branches : List (PluralKey × Message)}
    (ascending : Table.Ascending branches)
    (inside : ∀ branch ∈ branches, Message.ReadsBack branch.2) :
    OptionsReadBack (writtenBranches branches) := by
  constructor
  · intro entry member
    rcases List.mem_map.mp member with
      ⟨branch, _, rfl⟩
    exact branch.1.isKeyText_write
  · have distinct := ascending.nodup_keys.map (fun _ _ => PluralKey.write_injective)
    simpa [writtenBranches, Function.comp_def] using distinct
  · intro entry member
    rcases List.mem_map.mp member with
      ⟨branch, inBranches, rfl⟩
    exact inside branch inBranches

/-- Branches in order are the branches of the options that they are written as. -/
theorem PluralBranches.written
    {branches : List (PluralKey × Message)}
    (ascending : Table.Ascending branches)
    (other : (branches.lookup .other).isSome) :
    PluralBranches (writtenBranches branches) branches := by
  have keys : List.Forall₂
      (fun option branch => PluralKey.read option.1 = .ok branch.1 ∧ option.2 = branch.2)
      (writtenBranches branches) branches := by
    rw [writtenBranches, List.forall₂_map_left_iff]
    exact List.forall₂_same.mpr fun branch _ => ⟨branch.1.read_write, rfl⟩
  have built := Table.ofList_eq_self ascending
  rw [← built] at other
  have branching := PluralBranches.intro keys other
  rwa [built] at branching

/-- The text in the braces of an argument is read as the argument. -/
structure Node.ReadsBack (node : Node) (inner : List Char) : Prop where
  complete : Complete inner
  reads : ∀ {quotes : List (List Char)} {inPlural : Bool} {index : Nat},
    Quotes quotes index inner → Message.PoundsRead inPlural [node] →
      ∀ base, ∃ children,
        Nested base (masked index inner) children ∧
          ArgumentReading ⟨quotes, false⟩ inPlural children node

namespace Node.ReadsBack

variable {name word : List Char}

/-- Text without braces and apostrophes reads back if it is a header by itself. -/
theorem of_bare
    {node : Node}
    {inner : List Char}
    (filled : inner ≠ [])
    (bare : IsBare inner)
    (reading : ∀ quotes inPlural offset,
      ArgumentReading ⟨quotes, false⟩ inPlural [.text inner offset] node) :
    node.ReadsBack inner where
  complete := complete_of_no_apostrophe bare.noApostrophe
  reads := by
    intro quotes inPlural index _ _ base
    refine ⟨[.text inner base], ?_, reading quotes inPlural base⟩
    rw [masked_of_no_apostrophe bare.noApostrophe]
    exact .stretch filled bare.noBrace base

theorem isBare_header
    (named : IsName name)
    (kinded : IsName word)
    {tail : List Char}
    (bare : IsBare tail) :
    IsBare (name ++ ',' :: ' ' :: (word ++ tail)) :=
  named.isBare.append (.cons (by decide) (.cons (by decide) (kinded.isBare.append bare)))

theorem argument
    {name : String}
    (named : IsName name.toList) :
    (Node.argument name).ReadsBack name.toList := by
  apply of_bare named.1 named.isBare
  intro quotes inPlural offset
  have reading : ArgumentReading ⟨quotes, false⟩ inPlural [.text name.toList offset]
      (.argument (String.ofList name.toList)) :=
    .plain (Header.read?_bare named)
  rwa [String.ofList_toList] at reading

/-- A placeholder with a category reads back, with its style. -/
theorem formatted
    (category : Category)
    {name : String}
    {style : Option Style}
    (named : IsName name.toList)
    (styled : ∀ given, style = some given → given.Printable) :
    (Node.formatted category name style).ReadsBack
      (name.toList ++ ',' :: ' ' :: (category.word.toList ++ (printStyle style).toList)) := by
  have kinded : IsName category.word.toList := isName_category category
  have known : Category.ofWord? (String.ofList category.word.toList) = some category := by
    rw [String.ofList_toList, Category.ofWord?_word]
  have filled (rest : List Char) : name.toList ++ ',' :: rest ≠ [] := by
    simp
  cases style with
  | none =>
      apply of_bare (filled _) (isBare_header named kinded .nil)
      intro quotes inPlural offset
      rcases Header.read?_kind named kinded with
        ⟨wordOffset, header⟩
      have reading : ArgumentReading ⟨quotes, false⟩ inPlural
          [.text (name.toList ++ ',' :: ' ' :: category.word.toList) offset]
          (.formatted category (String.ofList name.toList) none) :=
        .formatted header known
      rw [String.ofList_toList] at reading
      rwa [List.append_nil]
  | some style =>
      have printable := styled style rfl
      rw [printStyle_some]
      apply of_bare (filled _)
        (isBare_header named kinded (.cons (by decide) (isBare_styleText printable)))
      intro quotes inPlural offset
      rcases Header.read?_openEnded named kinded (styleText style) with
        ⟨wordOffset, header⟩
      have denotes : ParseContext.IsStyle ⟨quotes, false⟩
          (styleText style ++ Nest.sourceList []) style := by
        rw [Nest.sourceList, List.append_nil]
        exact isStyle_styleText printable
      have reading : ArgumentReading ⟨quotes, false⟩ inPlural
          [.text (name.toList ++ ',' :: ' ' :: (category.word.toList ++ ',' :: styleText style))
            offset]
          (.formatted category (String.ofList name.toList) (some style)) :=
        .styled header known denotes
      rwa [String.ofList_toList] at reading

/-- An argument with options has its header up to the first key.  Below the
argument, number signs are read as `within` says. -/
theorem of_options
    {node : Node}
    {key : String}
    {body : Message}
    {rest : List (String × Message)}
    (within : Bool → Bool)
    (lead : List Char)
    (named : IsName name)
    (kinded : IsName word)
    (bare : IsBare lead)
    (readBack : OptionsReadBack ((key, body) :: rest))
    (pounds : ∀ {inPlural : Bool}, Message.PoundsRead inPlural [node] →
      ∀ entry ∈ (key, body) :: rest, entry.2.PoundsRead (within inPlural))
    (reading : ∀ {quotes : List (List Char)} {inPlural : Bool} {content : List Char}
      {offset wordOffset : Nat} {nests : List Nest},
      Header.read? content = some (.openEnded name word wordOffset (lead ++ keyText key)) →
        OptionsReading ⟨quotes, false⟩ (within inPlural) [] (keyText key) nests
          ((key, body) :: rest) →
        ArgumentReading ⟨quotes, false⟩ inPlural (.text content offset :: nests) node) :
    node.ReadsBack
      (name ++ ',' :: ' ' :: (word ++ ',' :: (lead ++ optionsText ((key, body) :: rest)))) := by
  have front : IsBare (name ++ ',' :: ' ' :: (word ++ ',' :: (lead ++ keyText key))) := by
    apply isBare_header named kinded
    exact .cons (by decide) (bare.append (isBare_keyText (readBack.keys _ List.mem_cons_self)))
  have cut : name ++ ',' :: ' ' :: (word ++ ',' :: (lead ++ optionsText ((key, body) :: rest))) =
      (name ++ ',' :: ' ' :: (word ++ ',' :: (lead ++ keyText key))) ++
        '{' :: (body.print.toList ++ '}' :: optionsText rest) := by
    simp [optionsText]
  rw [cut]
  constructor
  · have inside := (readBack.inside _ List.mem_cons_self).complete
    exact (complete_of_no_apostrophe front.noApostrophe).append
      (inside.block readBack.tail.complete)
  · intro quotes inPlural index held bound base
    rcases Header.read?_openEnded named kinded (lead ++ keyText key) with
      ⟨wordOffset, header⟩
    rcases readBack.behindHeader (pounds bound) (by simp) front held base with
      ⟨nests, nested, options⟩
    exact ⟨_, nested, reading header options⟩

/-- A plural reads back if the messages of its branches do. -/
theorem plural
    {name : String}
    {rule : PluralRule}
    {offset : Int64}
    {branches : List (PluralKey × Message)}
    (named : IsName name.toList)
    (shifted : 0 ≤ offset.toInt)
    (other : (branches.lookup .other).isSome)
    (ascending : Table.Ascending branches)
    (inside : ∀ branch ∈ branches, Message.ReadsBack branch.2) :
    (Node.plural name rule offset branches).ReadsBack
      (name.toList ++ ',' :: ' ' :: (rule.word.toList ++ ',' ::
        ((printOffset offset).toList ++ optionsText (writtenBranches branches)))) := by
  have readBack := OptionsReadBack.written ascending inside
  have keyed := PluralBranches.written ascending other
  cases branches with
  | nil => cases other
  | cons branch rest =>
      apply of_options (fun _ => true) (printOffset offset).toList named (isName_pluralRule rule)
        (isBare_printOffset offset) readBack
      · intro inPlural _ entry _ impossible
        cases impossible
      · intro quotes inPlural content start wordOffset nests header options
        have reading : ArgumentReading ⟨quotes, false⟩ inPlural (.text content start :: nests)
            (.plural (String.ofList name.toList) rule offset (branch :: rest)) :=
          .plural header (PluralRule.ofKind?_word rule) (pluralOffset_printOffset shifted branch.1)
            options keyed
        rwa [String.ofList_toList] at reading

/-- A select reads back if the messages of its branches do. -/
theorem select
    {name : String}
    {branches : List (String × Message)}
    (named : IsName name.toList)
    (keys : ∀ branch ∈ branches, IsKeyText branch.1.toList)
    (other : (branches.lookup otherKey).isSome)
    (ascending : Table.Ascending branches)
    (inside : ∀ branch ∈ branches, Message.ReadsBack branch.2) :
    (Node.select name branches).ReadsBack
      (name.toList ++ ',' :: ' ' :: ("select".toList ++ ',' :: optionsText branches)) := by
  have readBack : OptionsReadBack branches := ⟨keys, ascending.nodup_keys, inside⟩
  have built := Table.ofList_eq_self ascending
  cases branches with
  | nil => cases other
  | cons branch rest =>
      apply of_options id [] named isName_select .nil readBack
      · intro inPlural bound entry member outside free
        exact bound outside (.select member free)
      · intro quotes inPlural content start wordOffset nests header options
        rw [← built] at other
        have reading : ArgumentReading ⟨quotes, false⟩ inPlural (.text content start :: nests)
            (.select (String.ofList name.toList) (Table.ofList (branch :: rest))) :=
          .select header options other
        rwa [String.ofList_toList, built] at reading

end Node.ReadsBack

namespace Message

variable {inPlural : Bool}

theorem PoundsRead.first
    {node : Node}
    {rest : Message}
    (pounds : PoundsRead inPlural (node :: rest)) :
    PoundsRead inPlural [node] :=
  fun outside free => pounds outside (hasFreePound_cons_iff.mpr (Or.inl free))

theorem PoundsRead.later
    {node : Node}
    {rest : Message}
    (pounds : PoundsRead inPlural (node :: rest)) :
    PoundsRead inPlural rest :=
  fun outside free => pounds outside (.behind free)

namespace ReadsBack

variable {rest : Message}

theorem nil : ReadsBack [] where
  complete := by
    rw [toList_print_nil]
    exact complete_nil
  reads := by
    intro quotes inPlural index base behind after _ _ reading
    rw [toList_print_nil] at reading ⊢
    exact ⟨[], .nil, reading.weaken fun _ => trivial⟩

/-- An argument in front of a message that reads back. -/
theorem block
    {node : Node}
    {inner : List Char}
    (notLiteral : ¬ StartsWithLiteral [node])
    (printed : (print (node :: rest)).toList = '{' :: (inner ++ '}' :: (print rest).toList))
    (argument : node.ReadsBack inner)
    (later : rest.ReadsBack) :
    ReadsBack (node :: rest) where
  complete := by
    rw [printed]
    exact argument.complete.block later.complete
  reads := by
    intro quotes inPlural index base behind after held pounds reading
    rw [printed] at held reading ⊢
    rw [masked_block argument.complete] at reading ⊢
    rcases held.block argument.complete with
      ⟨inArgument, inRest⟩
    rcases argument.reads inArgument pounds.first (base + 1) with
      ⟨children, nested, argumentReading⟩
    have width : ('{' : Char).utf8Size = 1 ∧ ('}' : Char).utf8Size = 1 := by decide
    have start : base + Text.byteWidth ('{' :: (masked index inner ++
          '}' :: masked (index + (quotesIn inner).length) (print rest).toList)) =
        base + 1 + Text.byteWidth (masked index inner) + 1 +
          Text.byteWidth (masked (index + (quotesIn inner).length) (print rest).toList) := by
      simp only [Text.byteWidth_cons, Text.byteWidth_append, width]
      omega
    rw [start] at reading
    rcases later.reads inRest pounds.later reading with
      ⟨tokens, assembles, restReads⟩
    refine ⟨.node node :: tokens, assembles.node fun _ => notLiteral, ?_⟩
    have whole := reads_block nested argumentReading restReads
    rw [List.cons_append, List.append_assoc]
    exact whole.weaken fun _ => trivial

theorem literal
    {text : String}
    (filled : text ≠ "")
    (unmarked : markerCharacter ∉ text.toList)
    (apart : ¬ rest.StartsWithLiteral)
    (later : rest.ReadsBack) :
    ReadsBack (.literal text :: rest) where
  complete := by
    rw [toList_print_literal]
    exact (complete_escaped text.toList).append later.complete
  reads := by
    intro quotes inPlural index base behind after held pounds reading
    have complete := complete_escaped text.toList
    rw [toList_print_literal] at held reading ⊢
    rw [masked_append complete] at reading ⊢
    have restored := unmask_of_unmistaken (unmistaken_of_not_mem unmarked quotes.length)
      (held.front complete)
    have runFilled : masked index (text.toList.flatMap escapeCharacter) ≠ [] := by
      intro empty
      rw [empty] at restored
      exact filled (String.toList_eq_nil_iff.mp restored.symm)
    rw [Text.byteWidth_append, ← Nat.add_assoc] at reading
    rcases later.reads (held.back complete) pounds.later reading with
      ⟨tokens, assembles, restReads⟩
    refine ⟨.node (.literal text) :: tokens, assembles.node (fun starts => absurd starts apart), ?_⟩
    have whole := reads_literal runFilled (fun _ member => opensQuote_of_mem_masked member)
      (restReads.weaken fun _ => apart)
    rw [ParseContext.unmasked, restored, String.ofList_toList] at whole
    rw [List.append_assoc]
    exact whole.weaken fun notLiteral => notLiteral trivial

theorem pound (later : rest.ReadsBack) : ReadsBack (.pound :: rest) where
  complete := by
    rw [toList_print_pound]
    have sign : Complete ['#'] := complete_of_no_apostrophe (by decide)
    exact sign.append later.complete
  reads := by
    intro quotes inPlural index base behind after held pounds reading
    rw [toList_print_pound] at held reading ⊢
    rw [masked_plain_append (by decide)] at reading ⊢
    rw [Text.byteWidth_append, ← Nat.add_assoc] at reading
    rcases later.reads (held.behind (by decide)) pounds.later reading with
      ⟨tokens, assembles, restReads⟩
    refine ⟨.node .pound :: tokens, assembles.node fun _ => id, ?_⟩
    cases inPlural with
    | false => exact absurd .here (pounds rfl)
    | true => exact (reads_pound restReads).weaken fun _ => trivial

/-- A tag in front of a message that reads back, with children that do. -/
theorem tag
    {name : String}
    {children : Message}
    (named : IsTagName name.toList)
    (inside : children.ReadsBack)
    (later : rest.ReadsBack) :
    ReadsBack (.tag name children :: rest) := by
  have plain (isClosing : Bool) : '\'' ∉ (Tag.mk isClosing name.toList).source :=
    Tag.not_mem_source named (by decide) (by decide)
  constructor
  · rw [toList_print_tag]
    exact (complete_of_no_apostrophe (plain false)).append
      (inside.complete.append ((complete_of_no_apostrophe (plain true)).append later.complete))
  · intro quotes inPlural index base behind after held pounds reading
    rw [toList_print_tag] at held reading ⊢
    rw [masked_plain_append (plain false), masked_append inside.complete,
      masked_plain_append (plain true)] at reading ⊢
    simp only [Text.byteWidth_append, ← Nat.add_assoc] at reading
    have inTag := held.behind (plain false)
    have childrenPounds : PoundsRead inPlural children :=
      fun outside free => pounds outside (.tag free)
    rcases later.reads ((inTag.back inside.complete).behind (plain true)) pounds.later reading with
      ⟨tokens, assembles, restReads⟩
    have opened (offset : Nat) : (Tag.mk false name.toList).token offset = .opening name offset := by
      rw [Tag.token, String.ofList_toList]
      rfl
    have closed (offset : Nat) : (Tag.mk true name.toList).token offset = .closing name offset := by
      rw [Tag.token, String.ofList_toList]
      rfl
    have closing := reads_tag rfl ⟨true, name.toList⟩ named restReads
    rw [closed] at closing
    rcases inside.reads (inTag.front inside.complete) childrenPounds closing with
      ⟨inner, innerAssembles, innerReads⟩
    have opening := reads_tag rfl ⟨false, name.toList⟩ named innerReads
    rw [opened, ← @List.cons_append _ (.closing name _) tokens after,
      ← List.append_assoc inner] at opening
    rw [List.append_assoc, List.append_assoc, List.append_assoc]
    exact ⟨_, .tag name _ _ innerAssembles assembles, opening.weaken fun _ => trivial⟩

end ReadsBack

/-- A printable message with its branches in order reads back at every depth. -/
theorem Printable.readsBack
    {message : Message}
    (printable : message.Printable)
    (ordered : message.Ordered) :
    message.ReadsBack := by
  induction printable with
  | nil => exact .nil
  | literal filled unmarked apart _ later => exact .literal filled unmarked apart (later ordered.2)
  | argument named _ later =>
      exact .block id (toList_print_argument _ _) (.argument named) (later ordered.2)
  | formatted named styled _ later =>
      exact .block id (toList_print_formatted _ _ _ _) (.formatted _ named styled) (later ordered.2)
  | plural named shifted other _ _ inside later =>
      rcases ordered with
        ⟨⟨ascending, bodies⟩, restOrdered⟩
      apply ReadsBack.block id (toList_print_plural _ _ _ _ _) _ (later restOrdered)
      apply Node.ReadsBack.plural named shifted other ascending
      intro branch member
      exact inside branch member (pluralBranchesOrdered_iff.mp bodies branch member)
  | select named keys other _ _ inside later =>
      rcases ordered with
        ⟨⟨ascending, bodies⟩, restOrdered⟩
      apply ReadsBack.block id (toList_print_select _ _ _) _ (later restOrdered)
      apply Node.ReadsBack.select named keys other ascending
      intro branch member
      exact inside branch member (selectBranchesOrdered_iff.mp bodies branch member)
  | pound _ later => exact .pound (later ordered.2)
  | tag named _ _ inside later => exact .tag named (inside ordered.1) (later ordered.2)

end Message

/-- The notation of a message parses as the message. -/
theorem parse_print
    {message : Message}
    (ordered : message.Ordered)
    (printable : message.Printable)
    (bound : ¬ message.HasFreePound) :
    parse false message.print = .ok message := by
  have readsBack := printable.readsBack ordered
  have held : Quotes (quotesIn message.print.toList) 0 message.print.toList :=
    List.prefix_refl _
  have pounds : message.PoundsRead false := fun _ => bound
  rcases readsBack.alone held pounds 0 with
    ⟨nests, tokens, nested, reading, tree⟩
  exact parse_eq_ok_iff.mpr ⟨nests, tokens, Nest.read_of_nested nested, reading, tree⟩

/-- Notation in a literal, and every kind of argument inside a tag and behind it. -/
def quotedNotation : Message :=
  [.tag "b-2"
    [.literal "it's \x7ba\x7d <#_5",
      .plural "n" .cardinal 1 [(.exact 2, [.pound]), (.other, [.literal "'#", .tag "i" []])]],
    .select "who" [("her", [.argument "x"]), ("other", [])],
    .formatted .number "share" (some (.named "percent")),
    .formatted .date "day" (some (.skeleton "yMMM"))]

/-- The print of `quotedNotation`, with all its quotes, reads back as the message. -/
theorem parse_print_quotedNotation :
    quotedNotation.Ordered ∧ quotedNotation.Printable ∧ ¬ quotedNotation.HasFreePound ∧
      parse false
        ("<b-2>it''s '\x7b'a'\x7d' '<''#'_5\x7bn, plural, offset:1 =2 \x7b#\x7d " ++
          "other \x7b'''#'<i></i>\x7d\x7d</b-2>\x7bwho, select, her \x7b\x7bx\x7d\x7d " ++
          "other \x7b\x7d\x7d\x7bshare, number, percent\x7d\x7bday, date, ::yMMM\x7d") =
      .ok quotedNotation := by
  have printed : quotedNotation.print =
      "<b-2>it''s '\x7b'a'\x7d' '<''#'_5\x7bn, plural, offset:1 =2 \x7b#\x7d " ++
        "other \x7b'''#'<i></i>\x7d\x7d</b-2>\x7bwho, select, her \x7b\x7bx\x7d\x7d " ++
        "other \x7b\x7d\x7d\x7bshare, number, percent\x7d\x7bday, date, ::yMMM\x7d" := by
    decide +kernel
  have ordered : quotedNotation.Ordered := by
    simp only [quotedNotation, Message.Ordered, Node.Ordered, pluralBranchesOrdered,
      selectBranchesOrdered, and_true, true_and]
    exact ⟨List.pairwise_pair.mpr trivial, List.pairwise_pair.mpr (by decide)⟩
  have printable : quotedNotation.Printable := by
    apply Message.Printable.tag (by decide)
    · apply Message.Printable.literal (by decide) (by decide) id
      apply Message.Printable.plural (by decide) (by decide) rfl _ .nil
      simp only [List.forall_mem_cons]
      refine ⟨.pound .nil, ?_, by simp⟩
      apply Message.Printable.literal (by decide) (by decide) id
      exact .tag (by decide) .nil .nil
    · apply Message.Printable.select (by decide) _ rfl
      · simp only [List.forall_mem_cons]
        exact ⟨.argument (by decide) .nil, .nil, by simp⟩
      · apply Message.Printable.formatted (by decide)
        · rintro _ ⟨⟩
          exact ⟨by decide, by decide, by decide⟩
        · apply Message.Printable.formatted (by decide) _ .nil
          rintro _ ⟨⟩
          exact (by decide : IsStyleText "yMMM".toList)
      · simp only [List.forall_mem_cons]
        exact ⟨by decide, by decide, by simp⟩
  have bound : ¬ quotedNotation.HasFreePound := by
    intro free
    rcases Message.hasFreePound_iff_exists_mem.mp free with
      ⟨node, member, signs⟩
    simp only [quotedNotation, List.mem_cons, List.not_mem_nil, or_false] at member
    rcases member with rfl | rfl | rfl | rfl
    · rcases Message.hasFreePound_iff_exists_mem.mp (Message.hasFreePound_tag_iff.mp signs) with
        ⟨inner, inside, signs⟩
      simp only [List.mem_cons, List.not_mem_nil, or_false] at inside
      rcases inside with rfl | rfl
      · exact Message.not_hasFreePound_literal _ signs
      · exact Message.not_hasFreePound_plural _ _ _ _ signs
    · rcases Message.hasFreePound_select_iff.mp signs with
        ⟨branch, inside, signs⟩
      simp only [List.mem_cons, List.not_mem_nil, or_false] at inside
      rcases inside with rfl | rfl
      · exact Message.not_hasFreePound_argument _ signs
      · exact Message.not_hasFreePound_nil signs
    · exact Message.not_hasFreePound_formatted _ _ _ signs
    · exact Message.not_hasFreePound_formatted _ _ _ signs
  rw [← printed]
  exact ⟨ordered, printable, bound, parse_print ordered printable bound⟩

end IcuMessage
