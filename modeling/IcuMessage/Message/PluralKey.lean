import IcuMessage.Failure
import IcuMessage.Text.Blank
import IcuMessage.Text.Integer

/-!
# Text of plural keys

An exact key is an equals sign and an integer, with blanks allowed around the
integer; a category is its keyword.  Writing an exact key uses the plainest of
its spellings, and what is written reads back as the same key.
-/

namespace IcuMessage.PluralKey

/-- The key that a text denotes. -/
def read (text : String) : Except PatternFault PluralKey :=
  match text.toList with
  | '=' :: number =>
      match Text.readInt64? (Text.trim number) with
      | some value => .ok (.exact value)
      | none => .error (.invalidExactKey text)
  | _ =>
      match PluralCategory.ofWord? text with
      | some kind => .ok (.category kind)
      | none => .error (.invalidCategoryKey text)

/-- The plainest text of a key. -/
def write : PluralKey → String
  | .exact value => String.ofList ('=' :: Text.writeInt64 value)
  | .category kind => kind.word

@[simp]
theorem read_write_category (kind : PluralCategory) :
    read (write (.category kind)) = .ok (.category kind) := by
  cases kind <;> cbv

end IcuMessage.PluralKey
