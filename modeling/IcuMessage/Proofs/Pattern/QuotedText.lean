import IcuMessage.Proofs.Pattern.QuotingRule
import IcuMessage.Proofs.Pattern.TagMarks
import IcuMessage.Proofs.Pattern.UnbrokenText

/-!
# Text between two apostrophes

Text that starts with notation and holds no apostrophe is quoted by one apostrophe on
each side, whatever else it holds: braces without partners, tags, or what looks like
a marker.  Only a line break keeps the apostrophes from quoting it
(`parse_quoted_eq_literal_iff`).
-/

namespace IcuMessage

/-- What stands before the first apostrophe is found again. -/
theorem eq_of_append_apostrophe
    {front other back behind : List Char}
    (noFront : '\'' ∉ front)
    (noOther : '\'' ∉ other)
    (same : front ++ '\'' :: back = other ++ '\'' :: behind) :
    front = other := by
  have stops : ∀ {before : List Char}, '\'' ∉ before → ∀ after,
      (before ++ '\'' :: after).takeWhile (· != '\'') = before := by
    intro before absent after
    have passes : ∀ character ∈ before, (character != '\'') = true := by
      intro character member
      rw [bne_iff_ne]
      rintro rfl
      exact absent member
    rw [List.takeWhile_append_of_pos passes, List.takeWhile_cons_of_neg (by simp),
      List.append_nil]
  rw [← stops noFront back, same, stops noOther]

/-- Text that two apostrophes around it should quote. -/
structure Quotable (text : List Char) : Prop where
  opens : ∃ first rest, text = first :: rest ∧ first ∈ ['{', '}', '#', '<']
  noApostrophe : '\'' ∉ text

namespace Quotable

variable {text : List Char}

/-- Text that can be quoted begins with a character of the notation. -/
theorem exists_opensQuote (quotable : Quotable text) :
    ∃ first rest, text = first :: rest ∧ Piece.opensQuote first = true := by
  rcases quotable.opens with
    ⟨first, rest, shape, opens⟩
  exact ⟨first, rest, shape, opensQuote_iff.mpr (by simpa using opens)⟩

/-- Text without line breaks that can be quoted is a quoted section between apostrophes.
-/
theorem isSection
    (quotable : Quotable text)
    (noBreak : '\n' ∉ text) :
    (Piece.quoted text).IsSection := by
  rcases quotable.exists_opensQuote with
    ⟨first, rest, rfl, opens⟩
  exact .quoted opens (fun member => quotable.noApostrophe (.tail _ member))
    (fun member => noBreak (.tail _ member))

/-- No section starts with an apostrophe in front of text with a line break. -/
theorem not_isSection_of_break
    (quotable : Quotable text)
    (broken : '\n' ∈ text)
    (piece : Piece)
    (after : List Char)
    (quotes : piece.IsSection) :
    '\'' :: (text ++ ['\'']) ≠ piece.source ++ after := by
  intro same
  cases quotes with
  | apostrophe =>
      rcases quotable.exists_opensQuote with
        ⟨first, rest, rfl, opens⟩
      have second : first = '\'' := (List.cons.inj (List.cons.inj same).2).1
      subst second
      exact absurd opens (by decide)
  | @quoted first run opens noApostrophe noBreak =>
      have content : text ++ '\'' :: [] = first :: run ++ '\'' :: after := by
        simpa [Piece.source] using (List.cons.inj same).2
      have noQuote : '\'' ≠ first := by
        rintro rfl
        exact absurd opens (by decide)
      have noNewline : '\n' ≠ first := by
        rintro rfl
        exact absurd opens (by decide)
      have shape := eq_of_append_apostrophe quotable.noApostrophe
        (List.not_mem_cons_of_ne_of_not_mem noQuote noApostrophe) content
      rw [shape, List.mem_cons] at broken
      exact noBreak (broken.resolve_left noNewline)

end Quotable

/-- The first literal of a text starts with what is already open of it. -/
theorem ParseContext.exists_literal_textTokens
    (context : ParseContext)
    (inPlural : Bool)
    {pending : List Char}
    (filled : pending ≠ [])
    (offset : Nat)
    (text : List Char) :
    ∃ run later,
      context.textTokens inPlural 0 pending offset text =
        .node (.literal (context.unmasked (pending.reverse ++ run))) :: later := by
  have literal : ∀ {pending : List Char}, pending ≠ [] →
      context.literalTokens pending =
        [.node (.literal (context.unmasked (pending.reverse ++ [])))] := by
    intro pending filled
    rw [literalTokens, List.append_nil, if_neg (by simpa using filled)]
  induction text using context.text_induct inPlural generalizing pending offset with
  | nil => exact ⟨[], [], by rw [textTokens_nil, literal filled]⟩
  | pound rest inside _ =>
      subst inside
      rw [context.textTokens_pound, literal filled]
      exact ⟨[], _, rfl⟩
  | tag text opened found _ =>
      rw [context.textTokens_tag inPlural pending offset found, literal filled]
      exact ⟨[], _, rfl⟩
  | plain character rest noPound noTag later =>
      rcases later (List.cons_ne_nil character pending) (offset + character.utf8Size) with
        ⟨run, tokens, begun⟩
      refine ⟨character :: run, tokens, ?_⟩
      rw [context.textTokens_plain inPlural pending offset noPound noTag, begun,
        List.reverse_cons, List.append_assoc, List.singleton_append]

/-- A message whose tokens start with a literal starts with that text. -/
theorem prefix_of_assemble_literal
    {text whole : String}
    {tokens : List Token}
    (paired : assemble (.node (.literal text) :: tokens) = .ok [.literal whole]) :
    text.toList <+: whole.toList := by
  have marks := (assemble_eq_ok_iff.mp paired).2
  rw [joinTokens_cons, marks_joinToken_literal] at marks
  have single :
      [.node (.literal whole)] = joinMark text ((joinTokens tokens).flatMap Token.marks) :=
    marks
  unfold joinMark at single
  split at single
  case h_1 next rest _ =>
    have same : whole = text ++ next := by simpa using (List.cons.inj single).1
    rw [same, String.toList_append]
    exact List.prefix_append _ _
  case h_2 =>
    have same : whole = text := by simpa using (List.cons.inj single).1
    exact same ▸ List.prefix_refl _

/-- Between apostrophes, text without line breaks is one literal. -/
theorem parse_quoted_of_no_break
    (ignoreTags : Bool)
    {text : List Char}
    (quotable : Quotable text)
    (noBreak : '\n' ∉ text) :
    parse ignoreTags (String.ofList ('\'' :: (text ++ ['\'']))) =
      .ok [.literal (String.ofList text)] := by
  have pieces : Piece.read ('\'' :: (text ++ ['\''])) = [.quoted text] := by
    have whole := Piece.read_section (quotable.isSection noBreak) []
    rw [List.append_nil] at whole
    exact whole
  have masked : (Masked.ofPattern ('\'' :: (text ++ ['\'']))).text = marker 0 := by
    show Masked.textOf 0 (Piece.read _) = _
    rw [pieces]
    exact List.append_nil _
  have quotes : (Masked.ofPattern ('\'' :: (text ++ ['\'']))).quotes = [text] := by
    show (Piece.read _).filterMap Piece.quote? = _
    rw [pieces]
    rfl
  have restored : unmask [text] (marker 0) = text := by
    have whole := @unmask_marker [text] 0 text rfl []
    rwa [List.append_nil, unmask_nil, List.append_nil] at whole
  have filled : text ≠ [] := by
    rcases quotable.opens with
      ⟨first, rest, rfl, _⟩
    exact List.cons_ne_nil first rest
  have plain : NoNotation
      (Masked.ofPattern (String.ofList ('\'' :: (text ++ ['\'']))).toList).text := by
    rw [String.toList_ofList, masked]
    exact fun _ member => opensQuote_of_mem_marker member
  rw [parse_of_noNotation ignoreTags plain, String.toList_ofList, masked, quotes, restored, Message.ofText_of_ne_nil filled]

/-- What a text that starts with an apostrophe reads as starts with a literal that
starts with an apostrophe. -/
theorem MessageReading.starts_with_apostrophe
    {context : ParseContext}
    {rest : List Char}
    {nests : List Nest}
    {tokens : List Token}
    (nested : Nested 0 ('\'' :: rest) nests)
    (reading : MessageReading context false nests tokens) :
    ∃ more later, tokens = .node (.literal (String.ofList ('\'' :: more))) :: later := by
  generalize whole : '\'' :: rest = text at nested
  cases nested with
  | nil => cases whole
  | block inside behind => cases (List.cons.inj whole).1
  | @text _ content others nests filled _ _ behind =>
      cases content with
      | nil => exact absurd rfl filled
      | cons first content =>
          obtain rfl : '\'' = first := (List.cons.inj whole).1
          cases reading with
          | @text _ _ _ _ following reading =>
              have noTag : context.tag? ('\'' :: content) = none :=
                context.tag?_eq_none (Or.inr (by decide)) content
              have plain := context.textTokens_plain false [] 0 (by decide) noTag
              rcases context.exists_literal_textTokens false (List.cons_ne_nil '\'' [])
                (0 + ('\'' : Char).utf8Size) content with
                ⟨run, tokens, begun⟩
              refine ⟨unmask context.quotes run, tokens ++ following, ?_⟩
              rw [plain, begun, List.reverse_singleton, List.singleton_append,
                ParseContext.unmasked, unmask_cons_of_none rfl]
              rfl

/-- Text with a line break is not the literal that it was quoted for. -/
theorem parse_quoted_of_break
    (ignoreTags : Bool)
    {text : List Char}
    (quotable : Quotable text)
    (broken : '\n' ∈ text) :
    parse ignoreTags (String.ofList ('\'' :: (text ++ ['\'']))) ≠
      .ok [.literal (String.ofList text)] := by
  intro parsed
  obtain ⟨nests, tokens, nested, reading, paired⟩ := parse_eq_ok_iff.mp parsed
  have plain := Piece.read_plain fun piece after =>
    quotable.not_isSection_of_break broken piece after
  have masked : (Masked.ofPattern ('\'' :: (text ++ ['\'']))).text =
      '\'' :: Masked.textOf 0 (Piece.read (text ++ ['\''])) := by
    show Masked.textOf 0 (Piece.read _) = _
    rw [plain]
    rfl
  rw [String.toList_ofList, masked, Nest.read_eq_ok_iff] at nested
  rcases reading.starts_with_apostrophe nested with
    ⟨more, later, rfl⟩
  have starts := prefix_of_assemble_literal paired
  rw [String.toList_ofList, String.toList_ofList] at starts
  exact quotable.noApostrophe (starts.subset List.mem_cons_self)

/-- Between two apostrophes, text that starts with notation and holds no apostrophe is
one literal, whether tags are ignored or not, exactly if it has no line break. -/
theorem parse_quoted_eq_literal_iff
    (ignoreTags : Bool)
    {text : String}
    (quotable : Quotable text.toList) :
    parse ignoreTags ("'" ++ text ++ "'") = .ok [.literal text] ↔ '\n' ∉ text.toList := by
  have pattern : "'" ++ text ++ "'" = String.ofList ('\'' :: (text.toList ++ ['\''])) := by
    rw [← String.toList_inj]
    simp
  rw [pattern]
  nth_rewrite 2 [← String.ofList_toList (s := text)]
  constructor
  · exact fun parsed broken => parse_quoted_of_break ignoreTags quotable broken parsed
  · exact parse_quoted_of_no_break ignoreTags quotable

/-- Braces without partners, an open tag, and what looks like a marker. -/
def notationText : String :=
  "\x7d<b>\x7b\x7b _\uFDDF_0_ #"

/-- Open braces, a tag and what looks like a marker are one literal between apostrophes.
-/
theorem parse_quoted_eq_literal_iff_notationText :
    Quotable notationText.toList ∧ '\n' ∉ notationText.toList ∧
      parse false ("'" ++ notationText ++ "'") = .ok [.literal notationText] := by
  have quotable : Quotable notationText.toList :=
    ⟨⟨'\x7d', _, rfl, by decide⟩, by decide +kernel⟩
  have noBreak : '\n' ∉ notationText.toList := by
    decide +kernel
  exact ⟨quotable, noBreak, (parse_quoted_eq_literal_iff false quotable).mpr noBreak⟩

/-- A brace before a line break is not quoted, so it is found to be open. -/
theorem line_break_is_not_quoted :
    Quotable "\x7b\n".toList ∧
      parse false "'\x7b\n'" = .error ⟨.unclosedBrace, 1⟩ ∧
        parse false "'\x7b\n'" ≠ .ok [.literal "\x7b\n"] := by
  have reported : parse false "'\x7b\n'" = .error ⟨.unclosedBrace, 1⟩ := by
    decide +kernel
  refine ⟨⟨⟨'\x7b', ['\n'], by decide, by decide⟩, by decide⟩, reported, ?_⟩
  rw [reported]
  nofun

end IcuMessage
