/-!
# Leading text

Recognition of a fixed text at the start of another one.
-/

namespace IcuMessage.Text

/-- What follows the expected text, if the text starts with it. -/
def afterPrefix? : List Char → List Char → Option (List Char)
  | [], text => some text
  | _ :: _, [] => none
  | expected :: more, character :: rest =>
      if expected = character then afterPrefix? more rest else none

theorem afterPrefix?_eq_some_iff {expected text rest : List Char} :
    afterPrefix? expected text = some rest ↔ text = expected ++ rest := by
  induction expected generalizing text with
  | nil => simp [afterPrefix?, eq_comm]
  | cons head more ih =>
      cases text with
      | nil => simp [afterPrefix?]
      | cons character tail =>
          by_cases same : head = character
          · simp [afterPrefix?, same, ih]
          · simp [afterPrefix?, same, Ne.symm same]

/-- The text without the leading repetitions of a two-character text. -/
def dropPairs (first second : Char) : List Char → List Char
  | left :: right :: rest =>
      if left = first ∧ right = second then dropPairs first second rest
      else left :: right :: rest
  | text => text

end IcuMessage.Text
