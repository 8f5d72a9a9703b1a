import IcuMessage.Proofs.Pattern.Quoting
import IcuMessage.Proofs.Pattern.Reading
import IcuMessage.Proofs.Pattern.TextTokens

/-!
# Patterns of text alone

A pattern whose masked text holds no notation is one stretch of text.  It parses,
whether tags are ignored or not, as one literal, which is unmasked as a whole
(`parse_of_noNotation`).
-/

namespace IcuMessage

/-- The message of a text: one literal, or nothing if there is no text. -/
def Message.ofText (text : String) : Message :=
  if text = "" then [] else [.literal text]

theorem Message.ofText_nil : Message.ofText (String.ofList []) = [] := rfl

theorem Message.ofText_of_ne_nil
    {text : List Char}
    (filled : text ≠ []) :
    Message.ofText (String.ofList text) = [.literal (String.ofList text)] := by
  have someText : String.ofList text ≠ "" := by
    rwa [Ne, ← String.toList_eq_nil_iff, String.toList_ofList]
  rw [Message.ofText, if_neg someText]

/-- No character of a text could open a block, a tag or a quoted section. -/
def NoNotation (text : List Char) : Prop :=
  ∀ character ∈ text, Piece.opensQuote character = false

namespace NoNotation

variable {text : List Char}

theorem noBrace (plain : NoNotation text) : '{' ∉ text ∧ '}' ∉ text :=
  ⟨fun member => Bool.noConfusion (plain _ member), fun member => Bool.noConfusion (plain _ member)⟩

/-- Text without notation is one literal. -/
theorem textTokens
    (plain : NoNotation text)
    (context : ParseContext)
    (offset : Nat) :
    context.textTokens false 0 [] offset text = context.literalTokens text.reverse := by
  have noTag : ∀ character ∈ text, context.ignoreTags = true ∨ character ≠ '<' := by
    rintro _ member
    right
    rintro rfl
    exact Bool.noConfusion (plain _ member)
  have run := context.textTokens_run false [] offset (fun _ _ _ => rfl) noTag []
  rwa [List.append_nil, List.append_nil, ParseContext.textTokens_nil] at run

end NoNotation

/-- Without notation, a pattern stands for its unmasked text. -/
theorem parse_of_noNotation
    (ignoreTags : Bool)
    {pattern : String}
    (plain : NoNotation (Masked.ofPattern pattern.toList).text) :
    parse ignoreTags pattern =
      .ok (Message.ofText (String.ofList
        (unmask (Masked.ofPattern pattern.toList).quotes
          (Masked.ofPattern pattern.toList).text))) := by
  rw [parse_eq_ok_iff]
  by_cases empty : (Masked.ofPattern pattern.toList).text = []
  · rw [empty, unmask_nil, Message.ofText_nil]
    exact ⟨[], [], rfl, .nil, rfl⟩
  · have nested := Nested.stretch empty plain.noBrace 0
    refine ⟨_, _, Nest.read_eq_ok_iff.mpr nested, .text .nil, ?_⟩
    have filled := unmask_ne_nil
      (fun _ member => @filled_of_mem_quotes pattern.toList _ member) empty
    rw [plain.textTokens, List.append_nil, ParseContext.literalTokens,
      if_neg (by simpa using empty), List.reverse_reverse, Message.ofText_of_ne_nil filled]
    rfl

end IcuMessage
