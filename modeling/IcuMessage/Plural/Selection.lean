import IcuMessage.Provider
import IcuMessage.Traced

/-!
# Selection of plural branches

A plural takes the branch of its number if that is a whole number with a branch
of its own.  The provider is asked for a category only otherwise; then the
branch of the category is taken, or the branch `other` if there is none.
-/

namespace IcuMessage

/-- The integer whose branch a number takes: a whole number below two to the
power of 63 in either direction. -/
def wholeNumber? (value : Float) : Option Int64 :=
  match (Binary64.ofFloat value).integer? with
  | some whole => if whole.natAbs < Nat.pow 2 63 then some (Int64.ofInt whole) else none
  | none => none

namespace Provider

variable {β : Type}

/-- The branch of a category, or the branch `other`. -/
def categoryBranch (name : String) (category : PluralCategory)
    (branches : List (PluralKey × β)) : Except Failure β :=
  match (branches.lookup (.category category)).or (branches.lookup .other) with
  | some branch => .ok branch
  | none => .error (.missingOther name)

/-- The branch that a number takes when it has none of its own. -/
def selectCategory (provider : Provider) (tag : LocaleTag) (name : String)
    (branches : List (PluralKey × β)) (value : Float) (rule : PluralRule) : Traced β := do
  let category ← provider.pluralCategory tag value rule
  Traced.report (.categoryBranch name value category rule)
  categoryBranch name category branches

/-- The integer of a number together with the branch for it. -/
def exactBranch? (branches : List (PluralKey × β)) (value : Float) : Option (Int64 × β) :=
  (wholeNumber? value).bind fun key =>
    (branches.lookup (.exact key)).map fun branch => (key, branch)

/-- The branch that a number takes. -/
def selectPlural (provider : Provider) (tag : LocaleTag) (name : String)
    (branches : List (PluralKey × β)) (value : Float) (rule : PluralRule) : Traced β :=
  match exactBranch? branches value with
  | some (key, branch) => do
      Traced.report (.exactBranch name key)
      pure branch
  | none => provider.selectCategory tag name branches value rule

end Provider

end IcuMessage
