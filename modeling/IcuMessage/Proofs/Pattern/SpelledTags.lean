import IcuMessage.Proofs.Message.SpelledTags
import IcuMessage.Proofs.Pattern.Reading
import IcuMessage.Proofs.Pattern.TagText
import IcuMessage.Proofs.Pattern.TextTokens
import IcuMessage.Proofs.Pattern.Unmasking

/-!
# Patterns read with their tags ignored

A pattern whose tags pair is read as a tree with tags, or with the tags as
text.  The second reading is the first with its tags spelled out
(`parse_ignoring_tags`): where the one cuts the text at a tag and pairs the
tags on a stack, the other leaves the text whole.
-/

namespace IcuMessage

/-- The nodes that a token leaves when tags are spelled out. -/
def Token.spelledNodes : Token → List Node
  | .node element => element.spelledNodes
  | .opening name _ => [.literal (openingText name)]
  | .closing name _ => [.literal (closingText name)]

theorem Tag.spelledNodes_token (tag : Tag) (offset : Nat) :
    (tag.token offset).spelledNodes = [.literal (String.ofList tag.source)] := by
  rcases tag with
    ⟨isClosing, name⟩
  have join (bracket : String) :
      bracket ++ String.ofList name ++ ">" =
        String.ofList (bracket.toList ++ (name ++ ['>'])) := by
    rw [← String.toList_inj]
    simp
  cases isClosing with
  | true => exact congrArg (fun text => [Node.literal text]) (join "</")
  | false => exact congrArg (fun text => [Node.literal text]) (join "<")

/-- The nodes gathered inside open tags, the innermost first, spelled out. -/
def pendingNodes : List OpenTag → List Node → List Node
  | [], current => Message.spelledNodes current.reverse
  | innermost :: outer, current =>
      pendingNodes outer innermost.before ++
        .literal (openingText innermost.name) :: Message.spelledNodes current.reverse

/-- A further node is spelled out behind the others. -/
theorem pendingNodes_cons (stack : List OpenTag) (node : Node) (current : List Node) :
    pendingNodes stack (node :: current) = pendingNodes stack current ++ node.spelledNodes := by
  cases stack <;> simp [pendingNodes]

/-- Joining a literal to the one before it changes no text. -/
theorem alike_pendingNodes_appendNode
    (stack : List OpenTag)
    (node : Node)
    (current : List Node) :
    Alike (pendingNodes stack (appendNode node current))
      (pendingNodes stack current ++ node.spelledNodes) := by
  cases stack with
  | nil => exact alike_spelledNodes_appendNode node current
  | cons innermost outer =>
      rw [pendingNodes, pendingNodes, List.append_assoc, List.cons_append]
      exact .append (.refl _) (.cons _ (alike_spelledNodes_appendNode node current))

/-- Pairing tags and spelling out the pairs is spelling out the tags one by one. -/
theorem alike_of_assembleFrom
    {stack : List OpenTag}
    {current : List Node}
    {tokens : List Token}
    {message : Message}
    (assembled : assembleFrom stack current tokens = .ok message) :
    Alike (pendingNodes stack current ++ tokens.flatMap Token.spelledNodes)
      (Message.spelledNodes message) := by
  induction tokens generalizing stack current with
  | nil =>
      rw [assembleFrom.eq_def] at assembled
      cases stack with
      | cons innermost outer => cases assembled
      | nil =>
          cases assembled
          rw [List.flatMap_nil, List.append_nil]
          exact .refl _
  | cons token rest ih =>
      rw [List.flatMap_cons, ← List.append_assoc]
      cases token with
      | node node =>
          rw [assembleFrom] at assembled
          refine .trans (.append ?_ (.refl _)) (ih assembled)
          exact (alike_pendingNodes_appendNode stack node current).symm
      | opening name offset =>
          rw [assembleFrom] at assembled
          refine .trans (.append ?_ (.refl _)) (ih assembled)
          rw [pendingNodes, List.reverse_nil, Message.spelledNodes_nil]
          exact .refl _
      | closing name offset =>
          cases stack with
          | nil => cases assembled
          | cons innermost outer =>
              rw [assembleFrom] at assembled
              split at assembled
              case isFalse => cases assembled
              case isTrue paired =>
                refine .trans (.append ?_ (.refl _)) (ih assembled)
                rw [pendingNodes_cons, Node.spelledNodes, pendingNodes, ← paired,
                  List.append_assoc, List.cons_append]
                exact .refl _

/-- The message of tokens with tags, with its tags spelled out. -/
theorem spelled_eq_joinLiterals
    {tokens : List Token}
    {message : Message}
    (assembled : assemble tokens = .ok message) :
    message.spelled = joinLiterals (tokens.flatMap Token.spelledNodes) := by
  have alike := alike_of_assembleFrom assembled
  rw [pendingNodes, List.reverse_nil, Message.spelledNodes_nil, List.nil_append] at alike
  exact alike.symm.joinLiterals_eq

/-- The literal of a masked text; none if it is empty. -/
def literalNodes (quotes : List (List Char)) (text : List Char) : List Node :=
  if text.isEmpty then [] else [.literal (String.ofList (unmask quotes text))]

theorem ParseContext.literalTokens_eq_map (context : ParseContext) (pending : List Char) :
    context.literalTokens pending =
      (literalNodes context.quotes pending.reverse).map Token.node := by
  rw [literalTokens, literalNodes, List.isEmpty_reverse]
  split <;> rfl

theorem spelledNodes_literalNodes (quotes : List (List Char)) (text : List Char) :
    ((literalNodes quotes text).map Token.node).flatMap Token.spelledNodes =
      literalNodes quotes text := by
  rw [literalNodes]
  split
  · rfl
  · simp [Token.spelledNodes, Node.spelledNodes]

/-- A literal may be read in pieces where no marker spans two of them. -/
theorem alike_literalNodes_append
    {quotes : List (List Char)}
    {front back : List Char}
    (apart : unmask quotes (front ++ back) = unmask quotes front ++ unmask quotes back) :
    Alike (literalNodes quotes (front ++ back))
      (literalNodes quotes front ++ literalNodes quotes back) := by
  cases front with
  | nil => exact .refl _
  | cons first front =>
      cases back with
      | nil =>
          rw [List.append_nil, literalNodes, literalNodes, List.isEmpty_nil, if_pos rfl,
            List.append_nil]
          exact .refl _
      | cons head back =>
          have whole : literalNodes quotes (first :: front ++ head :: back) =
              [.literal (String.ofList (unmask quotes (first :: front)) ++
                String.ofList (unmask quotes (head :: back)))] := by
            rw [← String.ofList_append, ← apart]
            rfl
          rw [whole]
          exact (alike_literal_literal _ _).symm

/-- Quoted sections, read with tags as notation. -/
def heedingTags (quotes : List (List Char)) : ParseContext := ⟨quotes, false⟩

/-- Quoted sections, read with tags as text. -/
def ignoringTags (quotes : List (List Char)) : ParseContext := ⟨quotes, true⟩

/-- No marker spans the end of a text and what may follow. -/
def EndsApart (quotes : List (List Char)) (text : List Char) : Prop :=
  ∀ more, unmask quotes (text ++ more) = unmask quotes text ++ unmask quotes more

theorem endsApart_nil (quotes : List (List Char)) : EndsApart quotes [] :=
  fun _ => rfl

/-- A text ends apart from what follows if its last character occurs in no marker. -/
theorem endsApart_append_separator
    {separator : Char}
    (unmarked : Unmarked separator)
    (quotes : List (List Char))
    (text : List Char) :
    EndsApart quotes (text ++ [separator]) := by
  intro more
  rw [List.append_assoc, List.singleton_append, unmask_append unmarked, unmask_append unmarked]
  simp

theorem isNameCharacter_sign : Tag.isNameCharacter '#' = false := by
  decide

/-- A tag is no part of a marker, and unmasks as it is written. -/
theorem unmask_append_source
    {tag : Tag}
    (named : IsTagName tag.name)
    (quotes : List (List Char))
    (front : List Char) :
    unmask quotes (front ++ tag.source) = unmask quotes front ++ unmask quotes tag.source ∧
      unmask quotes tag.source = tag.source ∧ EndsApart quotes (front ++ tag.source) := by
  have unmarked := Tag.markerCharacter_not_mem_source named
  obtain ⟨inner, whole⟩ : ∃ inner, tag.source = '<' :: (inner ++ ['>']) := by
    rw [Tag.source]
    split
    · exact ⟨'/' :: tag.name, rfl⟩
    · exact ⟨tag.name, rfl⟩
  refine ⟨?_, unmask_eq_self quotes unmarked, ?_⟩
  · have alone := unmask_append unmarked_less quotes [] (inner ++ ['>'])
    rw [List.nil_append, unmask_nil, List.nil_append] at alone
    rw [whole, unmask_append unmarked_less, alone]
  · rw [whole, ← List.cons_append, ← List.append_assoc]
    exact endsApart_append_separator unmarked_greater quotes _

/-- A tag that unmasking leaves alone is literal text of its own. -/
theorem literalNodes_source
    {quotes : List (List Char)}
    {tag : Tag}
    (plain : unmask quotes tag.source = tag.source) :
    literalNodes quotes tag.source = [.literal (String.ofList tag.source)] := by
  have filled : tag.source.isEmpty = false := by
    rw [Tag.source]
    split <;> rfl
  rw [literalNodes, filled, plain]
  rfl

/-- With its tags ignored, a text is read as the literals and number signs that
its tags leave when they are spelled out.  `lead` is the text that the reading
with tags has already passed on, and the other one has not. -/
def TextSpelled (quotes : List (List Char)) (inPlural : Bool) (text : List Char) : Prop :=
  ∀ pending lead offset leadOffset, EndsApart quotes lead →
    ∃ nodes,
      (ignoringTags quotes).textTokens inPlural 0 (pending ++ lead.reverse) leadOffset text =
          nodes.map Token.node ∧
        Alike nodes
          (literalNodes quotes lead ++
            ((heedingTags quotes).textTokens inPlural 0 pending offset text).flatMap
              Token.spelledNodes)

namespace TextSpelled

variable {quotes : List (List Char)} {inPlural : Bool} {rest : List Char}

/-- The literal that the reading without tags has come to. -/
theorem literalTokens_lead
    (context : ParseContext)
    (pending lead : List Char) :
    context.literalTokens (pending ++ lead.reverse) =
      (literalNodes context.quotes (lead ++ pending.reverse)).map Token.node := by
  rw [context.literalTokens_eq_map, List.reverse_append, List.reverse_reverse]

theorem nil : TextSpelled quotes inPlural [] := by
  intro pending lead offset leadOffset apart
  refine ⟨literalNodes quotes (lead ++ pending.reverse), ?_, ?_⟩
  · rw [ParseContext.textTokens_nil, literalTokens_lead]
    rfl
  · rw [ParseContext.textTokens_nil, ParseContext.literalTokens_eq_map, spelledNodes_literalNodes]
    exact alike_literalNodes_append (apart _)

/-- A number sign in front of spelled text stays a number sign. -/
theorem pound (later : TextSpelled quotes true rest) : TextSpelled quotes true ('#' :: rest) := by
  intro pending lead offset leadOffset apart
  obtain ⟨nodes, read, alike⟩ :=
    later [] [] (offset + ('#' : Char).utf8Size) (leadOffset + ('#' : Char).utf8Size)
      (endsApart_nil quotes)
  refine ⟨literalNodes quotes (lead ++ pending.reverse) ++ .pound :: nodes, ?_, ?_⟩
  · rw [List.nil_append, List.reverse_nil] at read
    rw [ParseContext.textTokens_pound, literalTokens_lead, read]
    simp [ignoringTags]
  · rw [ParseContext.textTokens_pound, ParseContext.literalTokens_eq_map,
      List.flatMap_append, spelledNodes_literalNodes, List.flatMap_cons, ← List.append_assoc]
    exact .append (alike_literalNodes_append (apart _)) (.cons .pound alike)

/-- The reading without tags keeps the tag and what stands before it as one literal. -/
theorem tag
    {tag : Tag}
    (named : IsTagName tag.name)
    (found : (heedingTags quotes).tag? (tag.source ++ rest) = some tag)
    (later : TextSpelled quotes inPlural rest) :
    TextSpelled quotes inPlural (tag.source ++ rest) := by
  intro pending lead offset leadOffset apart
  have behind : (tag.source ++ rest).drop tag.length = rest := by
    rw [← Tag.length_source, List.drop_left]
  obtain ⟨splits, plain, further⟩ :=
    unmask_append_source named quotes (lead ++ pending.reverse)
  obtain ⟨nodes, read, alike⟩ :=
    later [] (lead ++ pending.reverse ++ tag.source)
      (offset + Text.byteWidth ((tag.source ++ rest).take tag.length))
      (leadOffset + Text.byteWidth tag.source) further
  refine ⟨nodes, ?_, ?_⟩
  · rw [ParseContext.textTokens_run]
    · rw [← read]
      simp
    · rintro character member rfl
      exact absurd member (Tag.not_mem_source named (by decide) isNameCharacter_sign)
    · exact fun _ _ => Or.inl rfl
  · have literals : Alike (literalNodes quotes (lead ++ pending.reverse ++ tag.source))
        (literalNodes quotes lead ++ literalNodes quotes pending.reverse ++
          [.literal (String.ofList tag.source)]) := by
      rw [← literalNodes_source plain]
      refine (alike_literalNodes_append splits).trans ?_
      exact .append (alike_literalNodes_append (apart _)) (.refl _)
    rw [ParseContext.textTokens_tag _ _ _ _ found, ParseContext.literalTokens_eq_map,
      List.flatMap_append, spelledNodes_literalNodes, List.flatMap_cons,
      Tag.spelledNodes_token, ← List.append_assoc, ← List.append_assoc, behind]
    exact alike.trans (.append literals (.refl _))

/-- A character that begins no tag is literal text with the tags and without them. -/
theorem plain
    {character : Char}
    (noPound : character = '#' → inPlural = false)
    (noTag : (heedingTags quotes).tag? (character :: rest) = none)
    (later : TextSpelled quotes inPlural rest) :
    TextSpelled quotes inPlural (character :: rest) := by
  intro pending lead offset leadOffset apart
  rw [ParseContext.textTokens_plain _ _ _ _ noPound noTag]
  obtain ⟨nodes, read, alike⟩ :=
    later (character :: pending) lead (offset + character.utf8Size)
      (leadOffset + character.utf8Size) apart
  refine ⟨nodes, ?_, alike⟩
  rw [ParseContext.textTokens_plain _ _ _ _ noPound
    ((ignoringTags quotes).tag?_eq_none (Or.inl rfl) rest)]
  exact read

end TextSpelled

/-- Without tags, text reads as it does with them, but with every tag spelled out. -/
theorem textSpelled
    (quotes : List (List Char))
    (inPlural : Bool)
    (text : List Char) :
    TextSpelled quotes inPlural text := by
  induction text using (heedingTags quotes).text_induct inPlural with
  | nil => exact .nil
  | pound rest inside later =>
      subst inside
      exact .pound later
  | tag text tag found later =>
      have read := found
      rw [ParseContext.tag?, heedingTags, if_neg Bool.false_ne_true] at read
      rcases Tag.read?_eq_some_iff.mp read with
        ⟨named, rest, rfl⟩
      rw [← Tag.length_source, List.drop_left] at later
      exact .tag named found later
  | plain character rest noPound noTag later => exact .plain noPound noTag later

/-- Options with the tags in their messages spelled out. -/
def spelledOptions (options : List (String × Message)) : List (String × Message) :=
  options.map fun option => (option.1, option.2.spelled)

/-- The keys of plural branches stay when the tags in them are spelled out. -/
theorem PluralBranches.spelled
    {options : List (String × Message)}
    {branches : List (PluralKey × Message)}
    (keyed : PluralBranches options branches) :
    PluralBranches (spelledOptions options) (spelledPluralBranches branches) := by
  cases keyed with
  | intro keys other =>
      rw [spelledPluralBranches_eq_map, ← Table.ofList_map]
      refine .intro ?_ ?_
      · rw [spelledOptions, List.forall₂_map_left_iff, List.forall₂_map_right_iff]
        refine keys.imp ?_
        rintro ⟨key, body⟩ ⟨read, message⟩ ⟨denotes, rfl⟩
        exact ⟨denotes, rfl⟩
      · rw [Table.ofList_map, Table.lookup_map, Option.isSome_map]
        exact other

theorem ParseContext.IsStyle.ignoring
    {quotes : List (List Char)}
    {text : List Char}
    {style : Style}
    (denotes : (heedingTags quotes).IsStyle text style) :
    (ignoringTags quotes).IsStyle text style := by
  cases denotes with
  | skeleton behind => exact .skeleton behind
  | named filled noColons => exact .named filled noColons

/-- Nests read with their tags ignored as they read otherwise, with the tags
spelled out. -/
structure Nest.ReadSpelled (quotes : List (List Char)) (nests : List Nest) : Prop where
  asMessage : ∀ inPlural tokens, MessageReading (heedingTags quotes) inPlural nests tokens →
    ∃ nodes,
      MessageReading (ignoringTags quotes) inPlural nests (nodes.map Token.node) ∧
        Alike nodes (tokens.flatMap Token.spelledNodes)
  asArgument : ∀ inPlural node, ArgumentReading (heedingTags quotes) inPlural nests node →
    ∃ spelled,
      ArgumentReading (ignoringTags quotes) inPlural nests spelled ∧
        node.spelledNodes = [spelled]
  asOptions : ∀ inPlural seen pending options,
    OptionsReading (heedingTags quotes) inPlural seen pending nests options →
      OptionsReading (ignoringTags quotes) inPlural seen pending nests (spelledOptions options)

namespace Nest.ReadSpelled

variable {quotes : List (List Char)} {rest : List Nest}

theorem nil : ReadSpelled quotes [] where
  asMessage inPlural tokens reading := by
    cases reading
    exact ⟨[], .nil, .refl _⟩
  asArgument inPlural node reading := by
    cases reading
  asOptions inPlural seen pending options reading := by
    cases reading with
    | nil blank => exact .nil blank

/-- An argument reads without tags as it does with them, but with the tags in its branches
spelled out. -/
theorem argument_text
    {content : List Char}
    {offset : Nat}
    {inPlural : Bool}
    {node : Node}
    (behind : ReadSpelled quotes rest)
    (reading : ArgumentReading (heedingTags quotes) inPlural (.text content offset :: rest) node) :
    ∃ spelled,
      ArgumentReading (ignoringTags quotes) inPlural (.text content offset :: rest) spelled ∧
        node.spelledNodes = [spelled] := by
  cases reading with
  | plain header => exact ⟨_, .plain header, by rw [Node.spelledNodes]⟩
  | formatted header known => exact ⟨_, .formatted header known, by rw [Node.spelledNodes]⟩
  | styled header known denotes =>
      exact ⟨_, .styled header known denotes.ignoring, by rw [Node.spelledNodes]⟩
  | plural header known shifted inside keyed =>
      exact ⟨_, .plural header known shifted (behind.asOptions _ _ _ _ inside) keyed.spelled,
        by rw [Node.spelledNodes]⟩
  | @select _ _ _ _ _ _ _ options header inside other =>
      have other : ((Table.ofList (spelledOptions options)).lookup otherKey).isSome := by
        rw [spelledOptions, Table.ofList_map, Table.lookup_map, Option.isSome_map]
        exact other
      refine ⟨_, .select header (behind.asOptions _ _ _ _ inside) other, ?_⟩
      rw [Node.spelledNodes, spelledSelectBranches_eq_map, spelledOptions, Table.ofList_map]

theorem text
    (content : List Char)
    (offset : Nat)
    (behind : ReadSpelled quotes rest) :
    ReadSpelled quotes (.text content offset :: rest) where
  asMessage inPlural tokens reading := by
    cases reading with
    | text reading =>
        obtain ⟨nodes, read, alike⟩ :=
          textSpelled quotes inPlural content [] [] offset offset (endsApart_nil quotes)
        rcases behind.asMessage _ _ reading with
          ⟨later, readLater, alikeLater⟩
        refine ⟨nodes ++ later, ?_, ?_⟩
        · rw [List.map_append, ← read]
          exact .text readLater
        · rw [List.flatMap_append]
          exact .append alike alikeLater
  asArgument inPlural node reading := behind.argument_text reading
  asOptions inPlural seen pending options reading := by
    cases reading with
    | text reading => exact .text (behind.asOptions _ _ _ _ reading)

/-- A block in front of nests reads without tags as the block with its tags spelled out.
-/
theorem block
    {children : List Nest}
    (offset : Nat)
    (inside : ReadSpelled quotes children)
    (behind : ReadSpelled quotes rest) :
    ReadSpelled quotes (.block children offset :: rest) where
  asMessage inPlural tokens reading := by
    cases reading with
    | block argument reading =>
        rcases inside.asArgument _ _ argument with
          ⟨node, readNode, spelled⟩
        rcases behind.asMessage _ _ reading with
          ⟨later, readLater, alikeLater⟩
        refine ⟨node :: later, .block readNode readLater, ?_⟩
        rw [List.flatMap_cons, Token.spelledNodes, spelled]
        exact .cons node alikeLater
  asArgument inPlural node reading := by
    cases reading
  asOptions inPlural seen pending options reading := by
    cases reading with
    | block denotes fresh body tree reading =>
        rcases inside.asMessage _ _ body with
          ⟨nodes, readBody, alike⟩
        have spelled := spelled_eq_joinLiterals tree
        rw [← alike.joinLiterals_eq] at spelled
        refine .block ⟨denotes.filled, denotes.joined, denotes.denotes⟩ fresh readBody ?_
          (behind.asOptions _ _ _ _ reading)
        rw [assemble_nodes, spelled]

end Nest.ReadSpelled

/-- Whatever is read with tags is read without them, with the tags spelled out. -/
theorem Nest.readSpelled
    (quotes : List (List Char))
    (nests : List Nest) :
    Nest.ReadSpelled quotes nests := by
  induction nests using Nest.induct with
  | nil => exact .nil
  | text content offset rest behind => exact .text content offset behind
  | block children offset rest inside behind => exact .block offset inside behind

/-- A pattern that is accepted is accepted with its tags ignored, and is then the
same message with its tags spelled out. -/
theorem parse_ignoring_tags
    {pattern : String}
    {message : Message}
    (parsed : parse false pattern = .ok message) :
    parse true pattern = .ok message.spelled := by
  rcases parse_eq_ok_iff.mp parsed with
    ⟨nests, tokens, nested, reading, tree⟩
  rcases (Nest.readSpelled _ nests).asMessage _ _ reading with
    ⟨nodes, readIgnoring, alike⟩
  refine parse_eq_ok_iff.mpr ⟨nests, nodes.map Token.node, nested, readIgnoring, ?_⟩
  rw [assemble_nodes, spelled_eq_joinLiterals tree, alike.joinLiterals_eq]

end IcuMessage
