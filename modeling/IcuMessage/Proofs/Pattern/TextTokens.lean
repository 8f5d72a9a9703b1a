import IcuMessage.Pattern.Parser

/-!
# Tokens of text, one at a time

Text without blocks is read from left to right: at each place there is a number
sign, a tag, or a character of a literal.  This module supplies one equation
for each of these cases, without the count of characters that the reader skips
behind a tag, the induction that follows the cases (`text_induct`), and from it
what holds of all tokens of a text (`forall_mem_textTokens`).
-/

namespace IcuMessage.ParseContext

variable (context : ParseContext) (inPlural : Bool) (pending : List Char) (offset : Nat)

/-- The tag that a text starts with, unless tags are ignored. -/
def tag? (text : List Char) : Option Tag :=
  if context.ignoreTags then none else Tag.read? text

@[simp]
theorem textTokens_nil (done : Nat) :
    context.textTokens inPlural done pending offset [] = context.literalTokens pending := by
  rw [textTokens.eq_def]

/-- Characters that are done with are skipped. -/
theorem textTokens_eq_drop (done : Nat) (text : List Char) :
    context.textTokens inPlural done pending offset text =
      context.textTokens inPlural 0 pending (offset + Text.byteWidth (text.take done))
        (text.drop done) := by
  induction text generalizing done offset with
  | nil => simp
  | cons character rest ih =>
      cases done with
      | zero => simp
      | succ done =>
          rw [textTokens.eq_def]
          simp only [ih, List.take_succ_cons, List.drop_succ_cons, Text.byteWidth_cons,
            Nat.add_assoc]

/-- In a plural a number sign ends the literal before it and is a token of its own. -/
theorem textTokens_pound (rest : List Char) :
    context.textTokens true 0 pending offset ('#' :: rest) =
      context.literalTokens pending ++
        .node .pound :: context.textTokens true 0 [] (offset + ('#' : Char).utf8Size) rest := by
  rw [textTokens.eq_def]
  simp

theorem tag_length_pos (tag : Tag) : 0 < tag.length := by
  rw [Tag.length]
  split <;> omega

/-- A tag is a token, and what follows it is read on its own. -/
theorem textTokens_tag
    {text : List Char}
    {tag : Tag}
    (found : context.tag? text = some tag) :
    context.textTokens inPlural 0 pending offset text =
      context.literalTokens pending ++
        tag.token offset :: context.textTokens inPlural 0 []
          (offset + Text.byteWidth (text.take tag.length)) (text.drop tag.length) := by
  rw [tag?] at found
  split at found
  case isTrue => cases found
  case isFalse heeded =>
    have heeded : context.ignoreTags = false := by simpa using heeded
    cases text with
    | nil => cases found
    | cons character rest =>
        have bracket : character = '<' := by
          unfold Tag.read? at found
          split at found <;> simp_all
        have length : tag.length = tag.length - 1 + 1 :=
          (Nat.succ_pred_eq_of_pos (tag_length_pos tag)).symm
        rw [textTokens.eq_def]
        simp only [bracket, show ('<' : Char) ≠ '#' by decide, false_and, if_false, heeded,
          Bool.false_eq_true]
        rw [bracket] at found
        rw [found, length]
        simp only [textTokens_eq_drop context inPlural [] _ (tag.length - 1) rest,
          List.take_succ_cons, List.drop_succ_cons, Text.byteWidth_cons, Nat.add_assoc]

/-- Any other character goes on with the literal before it. -/
theorem textTokens_plain
    {character : Char}
    {rest : List Char}
    (noPound : character = '#' → inPlural = false)
    (noTag : context.tag? (character :: rest) = none) :
    context.textTokens inPlural 0 pending offset (character :: rest) =
      context.textTokens inPlural 0 (character :: pending) (offset + character.utf8Size) rest := by
  rw [textTokens.eq_def]
  have noPound : ¬ (character = '#' ∧ inPlural = true) := by
    rintro ⟨sign, inside⟩
    rw [noPound sign] at inside
    cases inside
  rw [tag?] at noTag
  simp only [noPound, if_false, noTag]

omit inPlural pending offset in
/-- No tag begins at a character that is not an opening bracket, and none at all where
tags are ignored. -/
theorem tag?_eq_none
    {character : Char}
    (heedless : context.ignoreTags = true ∨ character ≠ '<')
    (rest : List Char) :
    context.tag? (character :: rest) = none := by
  rw [tag?]
  rcases heedless with ignored | other
  · rw [if_pos ignored]
  · split
    case isTrue => rfl
    case isFalse =>
      unfold Tag.read?
      split <;> simp_all

/-- A run of characters without number signs and tags goes on with the literal before it.
-/
theorem textTokens_run
    {run : List Char}
    (noPound : ∀ character ∈ run, character = '#' → inPlural = false)
    (noTag : ∀ character ∈ run, context.ignoreTags = true ∨ character ≠ '<')
    (rest : List Char) :
    context.textTokens inPlural 0 pending offset (run ++ rest) =
      context.textTokens inPlural 0 (run.reverse ++ pending) (offset + Text.byteWidth run)
        rest := by
  induction run generalizing pending offset with
  | nil => simp
  | cons character run ih =>
      have plain := context.textTokens_plain inPlural pending offset
        (noPound character List.mem_cons_self)
        (context.tag?_eq_none (noTag character List.mem_cons_self) (run ++ rest))
      rw [List.cons_append, plain, ih _ _ (fun other member => noPound other (.tail _ member))
        (fun other member => noTag other (.tail _ member))]
      simp [Nat.add_assoc]

/-- Induction on a text in the steps in which it is read. -/
@[elab_as_elim]
theorem text_induct
    {motive : List Char → Prop}
    (nil : motive [])
    (pound : ∀ rest, inPlural = true → motive rest → motive ('#' :: rest))
    (tag : ∀ text tag, context.tag? text = some tag →
      motive (text.drop tag.length) → motive text)
    (plain : ∀ character rest, (character = '#' → inPlural = false) →
      context.tag? (character :: rest) = none → motive rest → motive (character :: rest))
    (text : List Char) :
    motive text := by
  induction size : text.length using Nat.strongRecOn generalizing text with
  | _ size shorter =>
      cases text with
      | nil => exact nil
      | cons character rest =>
          subst size
          have restHolds := shorter rest.length (by simp) rest rfl
          cases found : context.tag? (character :: rest) with
          | some opened =>
              refine tag _ opened found (shorter _ ?_ _ rfl)
              have positive := tag_length_pos opened
              simp only [List.length_drop, List.length_cons]
              omega
          | none =>
              by_cases sign : character = '#' ∧ inPlural = true
              · rcases sign with
                  ⟨rfl, inside⟩
                exact pound rest inside restHolds
              · refine plain character rest ?_ found restHolds
                intro isSign
                exact Bool.eq_false_iff.mpr fun inside => sign ⟨isSign, inside⟩

/-- What holds of the literal of pending text holds of all tokens of that text. -/
theorem forall_mem_literalTokens
    {sound : Token → Prop}
    {pending : List Char}
    (literal : pending ≠ [] → sound (.node (.literal (context.unmasked pending.reverse)))) :
    ∀ token ∈ context.literalTokens pending, sound token := by
  intro token member
  rw [literalTokens] at member
  split at member
  case isTrue => cases member
  case isFalse filled =>
    obtain rfl := List.mem_singleton.mp member
    exact literal (by simpa using filled)

/-- What holds of the literals of a text, of number signs where they count, and
of tags, holds of all its tokens. -/
theorem forall_mem_textTokens
    {sound : Token → Prop}
    (literal : ∀ pending, pending ≠ [] →
      sound (.node (.literal (context.unmasked pending.reverse))))
    (pound : inPlural = true → sound (.node .pound))
    (tag : ∀ text tag offset, context.tag? text = some tag → sound (tag.token offset))
    (pending : List Char)
    (offset : Nat)
    (text : List Char) :
    ∀ token ∈ context.textTokens inPlural 0 pending offset text, sound token := by
  have literals (pending : List Char) := context.forall_mem_literalTokens (literal pending)
  induction text using context.text_induct inPlural generalizing pending offset with
  | nil =>
      rw [textTokens_nil]
      exact literals pending
  | pound rest inside later =>
      subst inside
      rw [context.textTokens_pound]
      exact List.forall_mem_append.mpr
        ⟨literals pending, List.forall_mem_cons.mpr ⟨pound rfl, later _ _⟩⟩
  | tag text opened found later =>
      rw [context.textTokens_tag inPlural pending offset found]
      exact List.forall_mem_append.mpr
        ⟨literals pending, List.forall_mem_cons.mpr ⟨tag text opened offset found, later _ _⟩⟩
  | plain character rest noPound noTag later =>
      rw [context.textTokens_plain inPlural pending offset noPound noTag]
      exact later _ _

end IcuMessage.ParseContext
