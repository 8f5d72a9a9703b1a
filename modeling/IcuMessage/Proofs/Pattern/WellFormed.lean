import IcuMessage.Proofs.Message.WellFormed
import IcuMessage.Proofs.Pattern.HeaderText
import IcuMessage.Proofs.Pattern.PoundScope
import IcuMessage.Proofs.Pattern.Quoting

/-!
# The messages of patterns are well formed

Whatever a pattern reads as is well formed at every depth
(`wellFormed_of_parse`).  Literals are filled because the text of a message is
only cut where something else stands, and because no quoted section is empty, so
that unmasking leaves some text of every text.  They are no neighbours because
pairing the tags joins them.
-/

namespace IcuMessage

/-! ## Tokens -/

/-- A token that gives rise to well-formed nodes only. -/
inductive Token.WellFormed (ignoreTags : Bool) : Token → Prop where
  | node {node : Node}
      (formed : node.WellFormed ignoreTags) :
      WellFormed ignoreTags (.node node)
  | opening {name : String} {offset : Nat}
      (heeded : ignoreTags = false)
      (named : IsTagName name.toList) :
      WellFormed ignoreTags (.opening name offset)
  | closing {name : String} {offset : Nat}
      (heeded : ignoreTags = false)
      (named : IsTagName name.toList) :
      WellFormed ignoreTags (.closing name offset)

theorem Tag.wellFormed_token
    {ignoreTags : Bool}
    {tag : Tag}
    (heeded : ignoreTags = false)
    (named : IsTagName tag.name)
    (offset : Nat) :
    (tag.token offset).WellFormed ignoreTags := by
  rw [← String.toList_ofList (l := tag.name)] at named
  rw [Tag.token]
  split
  · exact .closing heeded named
  · exact .opening heeded named

/-- Pairing tags keeps nodes well-formed and joins neighbouring literals. -/
theorem pairingKeeps_wellFormed (ignoreTags : Bool) :
    PairingKeeps (Token.WellFormed ignoreTags) (Message.WellFormed ignoreTags) where
  nil := .nil
  node _ _ sound beforeFormed := by
    cases sound with
    | node formed => exact .appendNode formed beforeFormed
  tag _ _ _ _ sound innerFormed beforeFormed := by
    cases sound with
    | closing heeded named => exact .tag heeded named innerFormed beforeFormed

/-- What the tags of well-formed tokens pair to is well formed. -/
theorem wellFormed_assemble
    {ignoreTags : Bool}
    {tokens : List Token}
    {message : Message}
    (assembled : assemble tokens = .ok message)
    (tokensFormed : ∀ token ∈ tokens, token.WellFormed ignoreTags) :
    message.WellFormed ignoreTags := by
  have reversed := (pairingKeeps_wellFormed ignoreTags).assemble assembled tokensFormed
  simpa using reversed.reverse

/-- All tokens of text are well-formed if no quoted section is empty. -/
theorem ParseContext.wellFormed_textTokens
    {context : ParseContext}
    (filled : ∀ quote ∈ context.quotes, quote ≠ [])
    (inPlural : Bool)
    (pending : List Char)
    (offset : Nat)
    (text : List Char) :
    ∀ token ∈ context.textTokens inPlural 0 pending offset text,
      token.WellFormed context.ignoreTags := by
  apply context.forall_mem_textTokens
  · intro pending someText
    refine .node (.literal ?_)
    have restored : unmask context.quotes pending.reverse ≠ [] :=
      unmask_ne_nil filled (by simpa using someText)
    simpa [unmasked] using restored
  · intro _
    exact .node .pound
  · intro text tag offset found
    rw [tag?] at found
    split at found
    case isTrue => cases found
    case isFalse heeded =>
      exact Tag.wellFormed_token (Bool.eq_false_iff.mpr heeded) (Tag.read?_eq_some_iff.mp found).1
        offset

/-! ## Arguments -/

/-- A style that is read is a skeleton, or a name that is not empty and does not look like
a skeleton. -/
theorem ParseContext.IsStyle.wellFormed
    {context : ParseContext}
    {text : List Char}
    {style : Style}
    (denotes : context.IsStyle text style) :
    style.WellFormed := by
  cases denotes with
  | skeleton => trivial
  | named filled noColons =>
      constructor
      · simpa [ParseContext.unmasked] using filled
      · rw [ParseContext.unmasked, String.toList_ofList]
        rintro ⟨behind, shape⟩
        rw [Text.afterPrefix?_eq_some_iff.mpr shape.symm] at noColons
        cases noColons

/-- An offset that is read is never negative. -/
theorem PluralOffset.nonneg
    {text rest : List Char}
    {shift : Int64}
    (shifted : PluralOffset text shift rest) :
    0 ≤ shift.toInt := by
  cases shifted with
  | absent => decide
  | given clause read =>
      have decimal := (Header.exists_front_of_offsetClause? clause).2.1
      refine Text.toInt_nonneg_of_readInt64? ?_ read
      intro minus
      exact absurd (decimal '-' (List.mem_of_head? minus)) (by decide)

/-- The messages of plural branches are those of the options. -/
theorem PluralBranches.forall_mem
    {options : List (String × Message)}
    {branches : List (PluralKey × Message)}
    (keyed : PluralBranches options branches)
    {good : Message → Prop}
    (optionsGood : ∀ option ∈ options, good option.2) :
    ∀ branch ∈ branches, good branch.2 := by
  cases keyed with
  | @intro keyed keys other =>
      have keyedGood : ∀ branch ∈ keyed, good branch.2 := by
        clear other
        induction keys with
        | nil => simp
        | cons same _ ih =>
            rcases List.forall_mem_cons.mp optionsGood with
              ⟨here, later⟩
            exact List.forall_mem_cons.mpr ⟨same.2 ▸ here, ih later⟩
      exact fun branch member => keyedGood branch (Table.mem_ofList member)

/-- The branches of a plural include `other`. -/
theorem PluralBranches.other
    {options : List (String × Message)}
    {branches : List (PluralKey × Message)}
    (keyed : PluralBranches options branches) :
    (branches.lookup .other).isSome := by
  cases keyed with
  | intro _ other => exact other

/-! ## Nests -/

section Reading

variable {context : ParseContext}

-- The induction is on the derivation, so the three rule sets call one another.
mutual

/-- The tokens of nests are well-formed at every depth. -/
theorem MessageReading.wellFormed
    (filled : ∀ quote ∈ context.quotes, quote ≠ [])
    {inPlural : Bool}
    {nests : List Nest}
    {tokens : List Token} :
    MessageReading context inPlural nests tokens →
      ∀ token ∈ tokens, token.WellFormed context.ignoreTags
  | .nil => by simp
  | .text behind =>
      List.forall_mem_append.mpr
        ⟨ParseContext.wellFormed_textTokens filled _ _ _ _, behind.wellFormed filled⟩
  | .block argument behind =>
      List.forall_mem_cons.mpr ⟨.node (argument.wellFormed filled), behind.wellFormed filled⟩

theorem ArgumentReading.wellFormed
    (filled : ∀ quote ∈ context.quotes, quote ≠ [])
    {inPlural : Bool}
    {nests : List Nest}
    {node : Node} :
    ArgumentReading context inPlural nests node → node.WellFormed context.ignoreTags
  | .plain header => by
      have named := Header.isName_of_read? header
      exact .argument named
  | .formatted header _ => by
      have named := Header.isName_of_read? header
      exact .formatted named (by simp)
  | .styled header _ denotes => by
      have named := Header.isName_of_read? header
      refine .formatted named ?_
      rintro _ ⟨⟩
      exact denotes.wellFormed
  | .plural header _ shifted inside keyed => by
      have named := Header.isName_of_read? header
      have branches := keyed.forall_mem (inside.wellFormed filled)
      exact .plural named shifted.nonneg keyed.other
        (fun branch member => (branches branch member).apart)
        (fun branch member => (branches branch member).nodes)
  | .select header inside other => by
      have named := Header.isName_of_read? header
      have options := inside.wellFormed filled
      exact .select named other
        (fun branch member => (options branch (Table.mem_ofList member)).apart)
        (fun branch member => (options branch (Table.mem_ofList member)).nodes)

theorem OptionsReading.wellFormed
    (filled : ∀ quote ∈ context.quotes, quote ≠ [])
    {inPlural : Bool}
    {seen : List String}
    {pending : List Char}
    {nests : List Nest}
    {options : List (String × Message)} :
    OptionsReading context inPlural seen pending nests options →
      ∀ option ∈ options, Message.WellFormed context.ignoreTags option.2
  | .nil blank => by simp
  | .text behind => behind.wellFormed filled
  | .block denotes fresh inside tree behind =>
      List.forall_mem_cons.mpr
        ⟨wellFormed_assemble tree (inside.wellFormed filled), behind.wellFormed filled⟩

end

end Reading

/-- The message of a pattern is well formed at every depth, and its number signs
are all below plurals. -/
theorem wellFormed_of_parse
    {ignoreTags : Bool}
    {pattern : String}
    {message : Message}
    (parsed : parse ignoreTags pattern = .ok message) :
    message.WellFormed ignoreTags ∧ ¬ message.HasFreePound := by
  rcases parse_eq_ok_iff.mp parsed with
    ⟨nests, tokens, _, reading, tree⟩
  have tokensFormed := reading.wellFormed fun quote => filled_of_mem_quotes
  exact ⟨wellFormed_assemble tree tokensFormed, not_hasFreePound_of_parse parsed⟩

/-- Quoted notation beside notation, and a select in a plural in a tag. -/
def nestedPattern : String :=
  "it''s <b>\x7bn, plural, offset:1 =1 \x7b#'#'\x7d other \x7b" ++
    "\x7bwho, select, other \x7b'\x7b'\x7bx, number, percent\x7d\x7d\x7d\x7d\x7d</b>"

/-- The message that `nestedPattern` denotes. -/
def nestedMessage : Message :=
  [.literal "it's ",
    .tag "b"
      [.plural "n" .cardinal 1
        [(.exact 1, [.pound, .literal "#"]),
          (.other,
            [.select "who"
              [("other", [.literal "\x7b", .formatted .number "x" (some (.named "percent"))])]])]]]

/-- The message of `nestedPattern` is well-formed down to the placeholder inside of the
select, and its number sign is bound. -/
theorem wellFormed_of_parse_nestedPattern :
    parse false nestedPattern = .ok nestedMessage ∧
      nestedMessage.WellFormed false ∧ ¬ nestedMessage.HasFreePound := by
  have parsed : parse false nestedPattern = .ok nestedMessage := by
    decide +kernel
  exact ⟨parsed, wellFormed_of_parse parsed⟩

end IcuMessage
