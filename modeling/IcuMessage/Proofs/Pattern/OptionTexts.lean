import IcuMessage.Proofs.Pattern.BraceErrors
import IcuMessage.Proofs.Pattern.BraceSplitting
import IcuMessage.Proofs.Pattern.WrittenOptions
import IcuMessage.Proofs.Text.Words

/-!
# The texts of options

Behind its header, the block of a plural or select holds a text of options.  `OptionList`
says by rules what such a text is: words with a block behind each, with blanks around the
words and at the end, where every block is a message.  `optionsOfText` reads a text as
options, and the argument of a block is made of what it gives (`argument_eq_of_holdsOptions`).

The reader accepts exactly the texts of options with at least one option and no key text
twice, and gives their key texts and messages in order, each with the byte offset of its
word (`options_read_exactly`).
-/

namespace IcuMessage

/-! ## Words in front of blocks -/

namespace ParseContext

variable {context : ParseContext} {text : List Char} {start : Nat}

/-- A word with blanks around it is a key. -/
theorem optionKey?_word
    {lead word gap : List Char}
    (leads : ∀ character ∈ lead, Text.isBlank character = true)
    (filled : word ≠ [])
    (solid : Text.hasBlank word = false)
    (gaps : ∀ character ∈ gap, Text.isBlank character = true) :
    context.optionKey? (lead ++ (word ++ gap)) start =
      .ok (some (context.unmasked word, start + Text.byteWidth lead)) := by
  have width : Text.byteWidth (lead ++ (word ++ gap)) - Text.byteWidth (word ++ gap) =
      Text.byteWidth lead := by
    rw [Text.byteWidth_append, Nat.add_sub_cancel]
  rw [optionKey?, Text.trim_around_word leads filled solid gaps,
    Text.trimStart_around_word leads filled solid, width]
  simp [List.isEmpty_iff, filled, solid]

/-- Every key is read off a word with blanks around it. -/
theorem exists_word_of_optionKey?
    {key : String}
    {position : Nat}
    (found : context.optionKey? text start = .ok (some (key, position))) :
    ∃ lead word gap,
      text = lead ++ (word ++ gap) ∧ (∀ character ∈ lead, Text.isBlank character = true) ∧
        word ≠ [] ∧ Text.hasBlank word = false ∧
          (∀ character ∈ gap, Text.isBlank character = true) ∧
            key = context.unmasked word ∧ position = start + Text.byteWidth lead := by
  have denotes : context.IsKey text key := optionKey?_eq_some_iff.mp ⟨position, found⟩
  rcases Text.exists_blanks_around_trim text with
    ⟨lead, gap, leads, gaps, shape⟩
  have again := @optionKey?_word context start _ _ _ leads denotes.filled denotes.joined gaps
  rw [← shape, found] at again
  cases again
  exact ⟨lead, Text.trim text, gap, shape, leads, denotes.filled, denotes.joined, gaps, rfl, rfl⟩

end ParseContext

/-! ## Texts of options, by rules -/

/-- A word in front of the block of an option: neither a blank nor a brace is in it. -/
structure IsOptionWord (word : List Char) : Prop where
  filled : word ≠ []
  solid : Text.hasBlank word = false
  noBrace : '{' ∉ word ∧ '}' ∉ word

/-- A text of options from a byte offset on, and the options that it denotes.  Blanks may
stand around the word of each option and behind the last block. -/
inductive OptionList (context : ParseContext) (inPlural : Bool) :
    Nat → List Char → List ParsedOption → Prop where
  | done {base : Nat} {blanks : List Char}
      (blank : ∀ character ∈ blanks, Text.isBlank character = true) :
      OptionList context inPlural base blanks []
  | option {base : Nat} {lead word gap inner rest : List Char} {body : Message}
      {later : List ParsedOption}
      (leads : ∀ character ∈ lead, Text.isBlank character = true)
      (worded : IsOptionWord word)
      (gaps : ∀ character ∈ gap, Text.isBlank character = true)
      (message :
        messageOfText context inPlural inner
          (base + Text.byteWidth (lead ++ (word ++ gap)) + 1) = .ok body)
      (behind :
        OptionList context inPlural
          (base + Text.byteWidth (lead ++ (word ++ gap)) + 1 + Text.byteWidth inner + 1) rest
          later) :
      OptionList context inPlural base
        (lead ++ (word ++ (gap ++ '{' :: (inner ++ '}' :: rest))))
        (⟨context.unmasked word, body, base + Text.byteWidth lead⟩ :: later)

/-- The options that a text is read as, one at least. -/
def optionsOfText (context : ParseContext) (inPlural : Bool) (text : List Char) (base : Nat) :
    Except PatternError (List ParsedOption) := do
  let nests ← Nest.read text base
  let options ← argumentOptions context inPlural [] [] base nests
  requireOption base options

theorem noBrace_of_blank
    {blanks : List Char}
    (blank : ∀ character ∈ blanks, Text.isBlank character = true) :
    '{' ∉ blanks ∧ '}' ∉ blanks :=
  ⟨fun member => absurd (blank _ member) (by decide),
    fun member => absurd (blank _ member) (by decide)⟩

/-- A text is a message exactly if its nests are. -/
theorem messageOfText_eq_ok_iff
    {context : ParseContext}
    {inPlural : Bool}
    {text : List Char}
    {base : Nat}
    {message : Message} :
    messageOfText context inPlural text base = .ok message ↔
      ∃ nests, Nested base text nests ∧ messageOfNests context inPlural nests = .ok message := by
  rw [messageOfText, bind_eq_ok_iff]
  simp only [Nest.read_eq_ok_iff]

section Reading

variable {context : ParseContext} {inPlural : Bool} {seen : List String} {base start : Nat}
  {pending text : List Char} {nests : List Nest} {options : List ParsedOption}

/-- Behind the last block, options end with blanks. -/
theorem argumentOptions_nil_eq_ok_iff :
    argumentOptions context inPlural seen pending start [] = .ok options ↔
      (∀ character ∈ pending, Text.isBlank character = true) ∧ options = [] := by
  have ended : context.optionKey? pending start = .ok none ↔ Text.trim pending = [] :=
    context.optionKey?_eq_none_iff
  rw [← Text.trim_eq_nil_iff, ← ended, argumentOptions]
  split
  case h_1 failed => simp [failed]
  case h_2 blank => simp [blank, eq_comm]
  case h_3 found => simp [found]

/-- In front of a block, options go on with a key text that was not seen before. -/
theorem argumentOptions_block_eq_ok_iff
    {children rest : List Nest}
    {offset : Nat} :
    argumentOptions context inPlural seen pending start (.block children offset :: rest) =
        .ok options ↔
      ∃ key position body later,
        context.optionKey? pending start = .ok (some (key, position)) ∧ key ∉ seen ∧
          messageOfNests context inPlural children = .ok body ∧
            argumentOptions context inPlural (key :: seen) [] 0 rest = .ok later ∧
              options = ⟨key, body, position⟩ :: later := by
  rw [argumentOptions]
  split
  case h_1 failed => simp [failed]
  case h_2 blank => simp [blank]
  case h_3 key position found =>
    simp only [List.contains_iff_mem]
    split
    case isTrue again =>
      simp only [reduceCtorEq, false_iff]
      rintro ⟨_, _, _, _, same, fresh, _⟩
      rw [found] at same
      cases same
      exact fresh again
    case isFalse fresh =>
      simp only [bodyTokens, messageOfNests, bind_eq_ok_iff]
      constructor
      · rintro ⟨tokens, reading, body, tree, later, read, same⟩
        cases same
        exact ⟨key, position, body, later, found, fresh, ⟨tokens, reading, tree⟩, read, rfl⟩
      · rintro ⟨_, _, body, later, same, _, ⟨tokens, reading, tree⟩, read, rfl⟩
        rw [found] at same
        cases same
        exact ⟨tokens, reading, body, tree, later, read, rfl⟩

/-- What is read as options is a text of options.  The text before the next block is part
of it, and starts where the nests before it have ended. -/
theorem OptionList.of_argumentOptions
    (noBrace : '{' ∉ pending ∧ '}' ∉ pending)
    (placed : pending ≠ [] → start = base ∧ ¬ Nest.StartWithText nests)
    (nested : Nested (base + Text.byteWidth pending) text nests)
    (read : argumentOptions context inPlural seen pending start nests = .ok options) :
    OptionList context inPlural base (pending ++ text) options := by
  induction nests generalizing seen pending base start text options with
  | nil =>
      cases nested
      rcases argumentOptions_nil_eq_ok_iff.mp read with
        ⟨blank, rfl⟩
      rw [List.append_nil]
      exact .done blank
  | cons nest rest ih =>
      cases nest with
      | text content offset =>
          -- Stretches are no neighbours, so this one follows a block or starts the text.
          have nothing : pending = [] := by
            by_contra filled
            exact (placed filled).2 trivial
          subst nothing
          rcases Nested.cons_text_iff.mp nested with
            ⟨rfl, ⟨_, contentNoBrace⟩, apart, more, rfl, behind⟩
          rw [argumentOptions] at read
          rw [List.nil_append]
          exact ih contentNoBrace (fun _ => ⟨rfl, apart⟩) behind read
      | block children offset =>
          cases nested with
          | @block _ inner more _ _ inside behind =>
              obtain ⟨key, position, body, later, found, _, message, readLater, rfl⟩ :=
                argumentOptions_block_eq_ok_iff.mp read
              obtain ⟨lead, word, gap, rfl, leads, filled, solid, gaps, rfl, rfl⟩ :=
                ParseContext.exists_word_of_optionKey? found
              obtain ⟨rfl, _⟩ := placed (by simp [filled])
              have wordNoBrace : '{' ∉ word ∧ '}' ∉ word :=
                ⟨fun member => noBrace.1 (by simp [member]),
                  fun member => noBrace.2 (by simp [member])⟩
              rw [List.append_assoc, List.append_assoc]
              refine .option leads ⟨filled, solid, wordNoBrace⟩ gaps
                (messageOfText_eq_ok_iff.mpr ⟨_, inside, message⟩) ?_
              exact ih (by simp) (fun someText => absurd rfl someText) behind readLater

/-- A text of options with different key texts is read as its options. -/
theorem OptionList.exists_nests (listed : OptionList context inPlural base text options) :
    ∃ nests, Nested base text nests ∧
      ∀ seen start,
        (∀ option ∈ options, option.key ∉ seen) → (options.map ParsedOption.key).Nodup →
          argumentOptions context inPlural seen [] start nests = .ok options := by
  induction listed with
  | @done base blanks blank =>
      cases blanks with
      | nil => exact ⟨[], .nil, fun _ _ _ _ => argumentOptions_nil_eq_ok_iff.mpr ⟨blank, rfl⟩⟩
      | cons first more =>
          refine ⟨_, .stretch (List.cons_ne_nil first more) (noBrace_of_blank blank) base, ?_⟩
          intro seen start _ _
          rw [argumentOptions]
          exact argumentOptions_nil_eq_ok_iff.mpr ⟨blank, rfl⟩
  | @option base lead word gap inner rest body later leads worded gaps message _ ih =>
      rcases ih with
        ⟨nests, nested, read⟩
      rcases messageOfText_eq_ok_iff.mp message with
        ⟨children, inside, message⟩
      have noBrace : '{' ∉ lead ++ (word ++ gap) ∧ '}' ∉ lead ++ (word ++ gap) := by
        simp [noBrace_of_blank leads, worded.noBrace, noBrace_of_blank gaps]
      have filled : lead ++ (word ++ gap) ≠ [] := by simp [worded.filled]
      have whole := Nested.text filled noBrace id (.block inside nested)
      rw [List.append_assoc, List.append_assoc] at whole
      refine ⟨_, whole, ?_⟩
      -- Behind this option its key text is among those seen, and no later option has it.
      intro seen start unseen distinct
      rcases List.forall_mem_cons.mp unseen with
        ⟨fresh, unseenLater⟩
      rcases List.nodup_cons.mp distinct with
        ⟨once, distinctLater⟩
      have unseenAgain : ∀ option ∈ later, option.key ∉ context.unmasked word :: seen := by
        intro option member again
        rcases List.mem_cons.mp again with same | before
        · exact once (List.mem_map.mpr ⟨option, member, same⟩)
        · exact unseenLater option member before
      rw [argumentOptions]
      exact argumentOptions_block_eq_ok_iff.mpr
        ⟨_, _, body, later, ParseContext.optionKey?_word leads worded.filled worded.solid gaps,
          fresh, message, read _ 0 unseenAgain distinctLater, rfl⟩

/-- The keys of options that are read are different. -/
theorem argumentOptions_nodup
    (read : argumentOptions context inPlural seen pending start nests = .ok options) :
    (options.map ParsedOption.key).Nodup := by
  have reading := ((Nest.readByRules context nests).asOptions _ _ _ _ _).mp ⟨options, read, rfl⟩
  rcases @OptionsReading.written _ _ _ _ start _ _ reading with
    ⟨_, _, distinct⟩
  rwa [List.map_map] at distinct

/-- A text is read as options exactly if its braces balance, it lists these options, there
are some, and their keys are different. -/
theorem optionsOfText_eq_ok_iff :
    optionsOfText context inPlural text base = .ok options ↔
      Balanced (braces text) ∧ OptionList context inPlural base text options ∧ options ≠ [] ∧
        (options.map ParsedOption.key).Nodup := by
  simp only [optionsOfText, bind_eq_ok_iff, requireOption_eq_ok_iff, Nest.read_eq_ok_iff]
  constructor
  · rintro ⟨nests, nested, _, read, filled, rfl⟩
    have listed : OptionList context inPlural base ([] ++ text) _ :=
      .of_argumentOptions (by simp) (fun someText => absurd rfl someText) nested read
    exact ⟨nested.balanced, listed, filled, argumentOptions_nodup read⟩
  · rintro ⟨_, listed, filled, distinct⟩
    rcases listed.exists_nests with
      ⟨nests, nested, read⟩
    exact ⟨nests, nested, options, read [] base (by simp) distinct, filled, rfl⟩

/-- What is pending before nests is the text before their first block. -/
theorem optionsOfText_of_nested
    (noBrace : '{' ∉ pending ∧ '}' ∉ pending)
    (apart : pending ≠ [] → ¬ Nest.StartWithText nests)
    (nested : Nested (base + Text.byteWidth pending) text nests) :
    optionsOfText context inPlural (pending ++ text) base =
      argumentOptions context inPlural [] pending base nests >>= requireOption base := by
  cases pending with
  | nil =>
      have read : Nest.read text base = .ok nests := Nest.read_eq_ok_iff.mpr nested
      rw [optionsOfText, List.nil_append, read]
      rfl
  | cons first more =>
      have whole : Nested base (first :: more ++ text) (.text (first :: more) base :: nests) :=
        .text (List.cons_ne_nil _ _) noBrace (apart (List.cons_ne_nil _ _)) nested
      rw [optionsOfText, Nest.read_eq_ok_iff.mpr whole, ok_bind, argumentOptions]

end Reading

/-! ## Blocks that hold options -/

/-- The block of a plural or select holds a text of options from a byte offset on, for a
block whose content starts at a byte offset.  The options of a plural are in a plural; those
of a select are in one if the select is.  `make` is what becomes of the options. -/
inductive Nest.HoldsOptions (inPlural : Bool) (start : Nat) :
    List Nest → Bool → List Char → Nat → (List ParsedOption → Except PatternError Node) →
      Prop where
  | plural {content name word tail pending : List Char} {offset wordOffset position : Nat}
      {rest : List Nest} {rule : PluralRule} {shift : Int64}
      (header : Header.read? content = some (.openEnded name word wordOffset tail))
      (known : PluralRule.ofKind? word = some rule)
      (shifted :
        pluralOffset tail (start + (Text.byteWidth content - Text.byteWidth tail)) =
          .ok (shift, pending, position)) :
      HoldsOptions inPlural start (.text content offset :: rest) true
        (pending ++ sourceList rest) position
        fun options =>
          (pluralBranches (String.ofList name) start options).map
            (.plural (String.ofList name) rule shift)
  | select {content name tail : List Char} {offset wordOffset : Nat} {rest : List Nest}
      (header :
        Header.read? content = some (.openEnded name "select".toList wordOffset tail)) :
      HoldsOptions inPlural start (.text content offset :: rest) inPlural
        (tail ++ sourceList rest) (start + (Text.byteWidth content - Text.byteWidth tail))
        fun options =>
          (selectBranches (String.ofList name) start options).map (.select (String.ofList name))

/-- What follows a header stands at the end of its text. -/
theorem Header.exists_append_of_read?
    {text name word tail : List Char}
    {wordOffset : Nat}
    (header : read? text = some (.openEnded name word wordOffset tail)) :
    ∃ front, text = front ++ tail := by
  cases readOff_of_read? header with
  | @openEnded _ _ front between _ separator _ _ _ shape =>
      exact ⟨front ++ [separator] ++ word ++ between ++ [','], by rw [shape]; simp⟩

/-- What follows the offset of a plural stands at the end of its text. -/
theorem exists_append_of_pluralOffset
    {text pending : List Char}
    {start position : Nat}
    {shift : Int64}
    (shifted : pluralOffset text start = .ok (shift, pending, position)) :
    ∃ front, text = front ++ pending ∧ position = start + Text.byteWidth front := by
  simp only [pluralOffset] at shifted
  split at shifted
  case h_1 =>
    cases shifted
    exact ⟨[], rfl, rfl⟩
  case h_2 digits rest clause =>
    obtain ⟨_, _, front, separator, _, rfl⟩ := Header.exists_front_of_offsetClause? clause
    split at shifted
    case h_2 => cases shifted
    case h_1 =>
      cases shifted
      refine ⟨front ++ [separator] ++ digits, by simp, ?_⟩
      simp only [Text.byteWidth_append]
      omega

section Blocks

variable {context : ParseContext} {inPlural inside : Bool} {start base : Nat}
  {block text : List Char} {children : List Nest}
  {make : List ParsedOption → Except PatternError Node}

/-- The end of the text in front of the other nests of a block, and the text behind it. -/
private theorem optionsOfText_behind
    {content front pending : List Char}
    {offset : Nat}
    {rest : List Nest}
    (nested : Nested start block (.text content offset :: rest))
    (shape : content = front ++ pending) :
    optionsOfText context inPlural (pending ++ Nest.sourceList rest)
        (start + Text.byteWidth front) =
      argumentOptions context inPlural [] pending (start + Text.byteWidth front) rest >>=
        requireOption (start + Text.byteWidth front) := by
  rcases Nested.cons_text_iff.mp nested with
    ⟨_, ⟨_, noBrace⟩, apart, more, _, behind⟩
  obtain rfl := behind.sourceList_eq
  rw [shape, Text.byteWidth_append, ← Nat.add_assoc] at behind
  rw [shape, List.mem_append, List.mem_append, not_or, not_or] at noBrace
  exact optionsOfText_of_nested ⟨noBrace.1.2, noBrace.2.2⟩ (fun _ => apart) behind

/-- The argument of a block that holds options is made of them. -/
theorem argument_eq_of_holdsOptions
    (nested : Nested start block children)
    (holds : Nest.HoldsOptions inPlural start children inside text base make) :
    argument context inPlural start children =
      optionsOfText context inside text base >>= make := by
  have noPlural : PluralRule.ofKind? "select".toList = none := by decide
  cases holds with
  | @plural content name word tail pending offset wordOffset position rest rule shift header known
      shifted =>
      rcases Header.exists_append_of_read? header with
        ⟨front, rfl⟩
      rcases exists_append_of_pluralOffset shifted with
        ⟨between, rfl, place⟩
      have behind : base = start + Text.byteWidth (front ++ between) := by
        rw [place]
        simp only [Text.byteWidth_append]
        omega
      rw [behind] at shifted ⊢
      rw [optionsOfText_behind nested (List.append_assoc _ _ _).symm]
      simp only [argument, header, known, shifted, ok_bind, bind_assoc, bind_ok_eq_map]
  | @select content name tail offset wordOffset rest header =>
      rcases Header.exists_append_of_read? header with
        ⟨front, rfl⟩
      have width : Text.byteWidth (front ++ tail) - Text.byteWidth tail = Text.byteWidth front := by
        rw [Text.byteWidth_append, Nat.add_sub_cancel]
      rw [width, optionsOfText_behind nested rfl]
      simp only [argument, header, noPlural, if_true, width, bind_assoc, bind_ok_eq_map]

end Blocks

/-! ## Blanks outside of quoted sections -/

/-- The masked text of pieces has the blanks that are not quoted. -/
theorem hasBlank_textOf (index : Nat) (pieces : List Piece) :
    Text.hasBlank (Masked.textOf index pieces) = Text.hasBlank (Piece.unquoted pieces) := by
  have blanks := Masked.filter_textOf (fun _ blank => unmarked_of_isBlank blank) index pieces
  have found (text : List Char) :
      Text.hasBlank text = (text.filter Text.isBlank).any Text.isBlank := by
    simp [Text.hasBlank, List.any_filter]
  rw [found, found, blanks]

/-- A text is read as options exactly if it is a text of options, with at least one option
and no key text twice, and as the options that it denotes.  The argument of a block that
holds options is made of what their text is read as.  Of the blanks in a pattern, those in
quoted sections do not count. -/
theorem options_read_exactly (context : ParseContext) (inPlural : Bool) :
    (∀ text base options,
      optionsOfText context inPlural text base = .ok options ↔
        Balanced (braces text) ∧ OptionList context inPlural base text options ∧
          options ≠ [] ∧ (options.map ParsedOption.key).Nodup) ∧
    (∀ block start children inside text base make,
      Nest.read block start = .ok children →
        Nest.HoldsOptions inPlural start children inside text base make →
          argument context inPlural start children =
            optionsOfText context inside text base >>= make) ∧
    ∀ index pieces,
      Text.hasBlank (Masked.textOf index pieces) = Text.hasBlank (Piece.unquoted pieces) :=
  ⟨fun _ _ _ => optionsOfText_eq_ok_iff,
    fun _ _ _ _ _ _ _ read holds => argument_eq_of_holdsOptions (Nest.read_eq_ok_iff.mp read) holds,
    hasBlank_textOf⟩

/-- The content of the block of a plural with an offset. -/
def shiftedPlural : String :=
  "n, plural, offset:1 one \x7bx\x7d other \x7b#\x7d"

/-- The nests of `shiftedPlural`. -/
def shiftedPluralChildren : List Nest :=
  [.text "n, plural, offset:1 one ".toList 1, .block [.text ['x'] 26] 26,
    .text " other ".toList 28, .block [.text ['#'] 36] 36]

/-- The options of `shiftedPlural` begin behind its offset, and they are what the block is
read as. -/
theorem options_read_exactly_shiftedPlural :
    let context : ParseContext := ⟨[], false⟩
    let text := " one \x7bx\x7d other \x7b#\x7d".toList
    Nest.read shiftedPlural.toList 1 = .ok shiftedPluralChildren ∧
      (∃ make,
        Nest.HoldsOptions false 1 shiftedPluralChildren true text 20 make ∧
          argument context false 1 shiftedPluralChildren =
            optionsOfText context true text 20 >>= make) ∧
      OptionList context true 20 text
        [⟨"one", [.literal "x"], 21⟩, ⟨"other", [.pound], 29⟩] := by
  intro context text
  have nested : Nest.read shiftedPlural.toList 1 = .ok shiftedPluralChildren := rfl
  have header : Header.read? "n, plural, offset:1 one ".toList =
      some (.openEnded ['n'] "plural".toList 3 " offset:1 one ".toList) := by
    decide
  have known : PluralRule.ofKind? "plural".toList = some .cardinal := by
    decide
  have shifted : pluralOffset " offset:1 one ".toList 11 = .ok (1, " one ".toList, 20) := by
    decide +kernel
  have holds : Nest.HoldsOptions false 1 shiftedPluralChildren true text 20 _ :=
    .plural header known shifted
  have read : optionsOfText context true text 20 =
      .ok [⟨"one", [.literal "x"], 21⟩, ⟨"other", [.pound], 29⟩] := by
    decide +kernel
  rcases options_read_exactly context false with
    ⟨_, behind, _⟩
  rcases options_read_exactly context true with
    ⟨exactly, _⟩
  exact ⟨nested, ⟨_, holds, behind _ _ _ _ _ _ _ nested holds⟩, ((exactly _ _ _).mp read).2.1⟩

/-- The blank in the second key is quoted. -/
example :
    optionsOfText ⟨["#b c".toList], false⟩ true
        (" a \x7bx\x7d ".toList ++ (marker 0 ++ "\x7b#\x7d\n".toList)) 7 =
      .ok [⟨"a", [.literal "x"], 8⟩, ⟨"#b c", [.pound], 14⟩] := by
  decide +kernel

end IcuMessage
