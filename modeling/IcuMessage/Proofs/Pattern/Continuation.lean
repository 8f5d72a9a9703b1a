import IcuMessage.Proofs.Pattern.Reading
import IcuMessage.Proofs.Pattern.TagText
import IcuMessage.Proofs.Pattern.TextTokens

/-!
# Reading a text from the front

A masked text is read from what stands at its front and from how the rest is
read.  Stretches of text that meet are one nest, so a number sign or a tag is
put into the stretch behind it, and a literal ends only where that stretch
starts with notation.
-/

namespace IcuMessage

variable {context : ParseContext} {inPlural : Bool} {base : Nat} {apart : Prop}

/-- Where nests start with a stretch of text, a literal before it ends there. -/
def EndsLiteral (context : ParseContext) (inPlural : Bool) (nests : List Nest) : Prop :=
  ∀ content offset rest, nests = .text content offset :: rest →
    ∀ pending position,
      context.textTokens inPlural 0 pending position content =
        context.literalTokens pending ++ context.textTokens inPlural 0 [] position content

/-- A text from a byte offset on reads as tokens.  If `apart` holds, a literal
before it ends where it starts. -/
def Reads (context : ParseContext) (inPlural : Bool) (base : Nat) (text : List Char)
    (tokens : List Token) (apart : Prop) : Prop :=
  ∃ nests,
    Nested base text nests ∧ MessageReading context inPlural nests tokens ∧
      (apart → EndsLiteral context inPlural nests)

/-- A literal ends apart under any stronger assumption as well. -/
theorem Reads.weaken
    {text : List Char}
    {tokens : List Token}
    {less : Prop}
    (reads : Reads context inPlural base text tokens apart)
    (implies : less → apart) :
    Reads context inPlural base text tokens less := by
  rcases reads with
    ⟨nests, nested, reading, ends⟩
  exact ⟨nests, nested, reading, fun holds => ends (implies holds)⟩

/-- No text has no tokens. -/
theorem reads_nil : Reads context inPlural base [] [] True := by
  refine ⟨[], .nil, .nil, ?_⟩
  intro _ content offset rest same
  cases same

@[simp]
theorem ParseContext.literalTokens_nil : context.literalTokens [] = [] := rfl

/-- A stretch in front of a text joins the stretch that the text starts with. -/
theorem Nested.prepend
    {run text : List Char}
    {nests : List Nest}
    {tokens : List Token}
    (filled : run ≠ [])
    (noBrace : '{' ∉ run ∧ '}' ∉ run)
    (nested : Nested (base + Text.byteWidth run) text nests)
    (reading : MessageReading context inPlural nests tokens) :
    ∃ content rest later,
      Nested base (run ++ text) (.text (run ++ content) base :: rest) ∧
        MessageReading context inPlural rest later ∧
        tokens = context.textTokens inPlural 0 [] (base + Text.byteWidth run) content ++ later ∧
        (content = [] ∨ ∃ offset, nests = .text content offset :: rest) := by
  cases nested with
  | nil =>
      refine ⟨[], [], tokens, ?_, reading, ?_, Or.inl rfl⟩
      · rw [List.append_nil]
        exact .stretch filled noBrace base
      · rw [ParseContext.textTokens_nil, ParseContext.literalTokens_nil, List.nil_append]
  | text contentFilled contentNoBrace contentApart behind =>
      rename_i content rest nests
      cases reading with
      | text later =>
          refine ⟨content, nests, _, ?_, later, rfl, Or.inr ⟨_, rfl⟩⟩
          rw [← List.append_assoc]
          refine .text (by simp [filled]) ?_ contentApart ?_
          · simp only [List.mem_append, not_or]
            exact ⟨⟨noBrace.1, contentNoBrace.1⟩, noBrace.2, contentNoBrace.2⟩
          · rwa [Text.byteWidth_append, ← Nat.add_assoc]
  | block inside behind =>
      refine ⟨[], _, tokens, ?_, reading, ?_, Or.inl rfl⟩
      · rw [List.append_nil]
        exact .text filled noBrace id (.block inside behind)
      · rw [ParseContext.textTokens_nil, ParseContext.literalTokens_nil, List.nil_append]

/-- Below a plural, a number sign in front of a text. -/
theorem reads_pound
    {text : List Char}
    {tokens : List Token}
    (behind : Reads context true (base + Text.byteWidth ['#']) text tokens apart) :
    Reads context true base ('#' :: text) (.node .pound :: tokens) True := by
  rcases behind with
    ⟨nests, nested, reading, _⟩
  rcases nested.prepend (List.cons_ne_nil _ _) (by decide) reading with
    ⟨content, rest, later, whole, laterReading, rfl, _⟩
  refine ⟨_, whole, ?_, ?_⟩
  · have read : MessageReading context true (.text ('#' :: content) base :: rest)
        (context.textTokens true 0 [] base ('#' :: content) ++ later) :=
      .text laterReading
    rw [ParseContext.textTokens_pound] at read
    exact read
  · intro _ content offset rest same pending position
    cases same
    rw [List.singleton_append, ParseContext.textTokens_pound, ParseContext.textTokens_pound]
    rfl

/-- In front of text, a tag is a token of its own, and a literal before it ends there. -/
theorem reads_tag
    (heeded : context.ignoreTags = false)
    (tag : Tag)
    (named : IsTagName tag.name)
    {text : List Char}
    {tokens : List Token}
    (behind :
      Reads context inPlural (base + Text.byteWidth tag.source) text tokens apart) :
    Reads context inPlural base (tag.source ++ text) (tag.token base :: tokens) True := by
  rcases behind with
    ⟨nests, nested, reading, _⟩
  have filled : tag.source ≠ [] := by
    rw [Tag.source]
    split <;> exact List.cons_ne_nil _ _
  have noBrace : '{' ∉ tag.source ∧ '}' ∉ tag.source :=
    ⟨Tag.not_mem_source named (by decide) (by decide),
      Tag.not_mem_source named (by decide) (by decide)⟩
  rcases nested.prepend filled noBrace reading with
    ⟨content, rest, later, whole, laterReading, rfl, _⟩
  have found (content : List Char) : context.tag? (tag.source ++ content) = some tag := by
    rw [ParseContext.tag?, heeded]
    exact Tag.read?_eq_some_iff.mpr ⟨named, content, rfl⟩
  have taken (content : List Char) : (tag.source ++ content).take tag.length = tag.source := by
    rw [← Tag.length_source, List.take_left]
  have dropped (content : List Char) : (tag.source ++ content).drop tag.length = content := by
    rw [← Tag.length_source, List.drop_left]
  refine ⟨_, whole, ?_, ?_⟩
  · have read : MessageReading context inPlural (.text (tag.source ++ content) base :: rest)
        (context.textTokens inPlural 0 [] base (tag.source ++ content) ++ later) :=
      .text laterReading
    rw [context.textTokens_tag inPlural [] base (found content), taken, dropped] at read
    exact read
  · intro _ content offset rest same pending position
    cases same
    rw [context.textTokens_tag inPlural pending position (found _),
      context.textTokens_tag inPlural [] position (found _)]
    rfl

/-- In front of text, a block that reads as an argument is the token of its node. -/
theorem reads_block
    {inner text : List Char}
    {children : List Nest}
    {node : Node}
    {tokens : List Token}
    (inside : Nested (base + 1) inner children)
    (argument : ArgumentReading context inPlural children node)
    (behind :
      Reads context inPlural (base + 1 + Text.byteWidth inner + 1) text tokens apart) :
    Reads context inPlural base ('{' :: (inner ++ '}' :: text)) (.node node :: tokens) True := by
  rcases behind with
    ⟨nests, nested, reading, _⟩
  refine ⟨_, .block inside nested, .block argument reading, ?_⟩
  intro _ content offset rest same
  cases same

/-- A literal in front of a text that starts with notation. -/
theorem reads_literal
    {run text : List Char}
    {tokens : List Token}
    (filled : run ≠ [])
    (plain : ∀ character ∈ run, Piece.opensQuote character = false)
    (behind : Reads context inPlural (base + Text.byteWidth run) text tokens True) :
    Reads context inPlural base (run ++ text)
      (.node (.literal (context.unmasked run)) :: tokens) False := by
  rcases behind with
    ⟨nests, nested, reading, ends⟩
  have absent (character : Char) (opens : Piece.opensQuote character = true) :
      character ∉ run := by
    intro member
    rw [plain character member] at opens
    cases opens
  rcases nested.prepend filled ⟨absent '{' rfl, absent '}' rfl⟩ reading with
    ⟨content, rest, later, whole, laterReading, rfl, first⟩
  refine ⟨_, whole, ?_, False.elim⟩
  have read : MessageReading context inPlural (.text (run ++ content) base :: rest)
      (context.textTokens inPlural 0 [] base (run ++ content) ++ later) :=
    .text laterReading
  rw [ParseContext.textTokens_run] at read
  · have cut : context.textTokens inPlural 0 (run.reverse ++ []) (base + Text.byteWidth run)
        content =
      context.literalTokens run.reverse ++
        context.textTokens inPlural 0 [] (base + Text.byteWidth run) content := by
      rw [List.append_nil]
      rcases first with rfl | ⟨offset, rfl⟩
      · rw [ParseContext.textTokens_nil, ParseContext.textTokens_nil,
          ParseContext.literalTokens_nil, List.append_nil]
      · exact ends trivial content offset rest rfl _ _
    have single : context.literalTokens run.reverse =
        [.node (.literal (context.unmasked run))] := by
      rw [ParseContext.literalTokens, List.isEmpty_reverse, List.reverse_reverse]
      rw [if_neg (by simpa using filled)]
    rw [cut, single] at read
    exact read
  · rintro character member rfl
    exact absurd member (absent '#' rfl)
  · rintro character member
    refine Or.inr ?_
    rintro rfl
    exact absent '<' rfl member

end IcuMessage
