import IcuMessage.Evaluation.TagRules
import IcuMessage.Locale.Negotiation
import IcuMessage.Plural.Selection
import IcuMessage.Style.Memo

/-!
# Environments

An environment is all that the evaluation of a message depends on besides the
message: the provider and the locale, the styles, the rules for tags, the
values, and the pattern to quote when a value is missing.
-/

namespace IcuMessage

/-- What a message is evaluated in. -/
structure Environment where
  provider : Provider
  locale : LocaleTag
  sheet : StyleSheet
  styles : StyleMemo
  tags : TagRules
  pattern : String
  values : Bindings

namespace Environment

/-- The value of a name. -/
def value (environment : Environment) (name : String) : Except Failure Value :=
  match environment.values.lookup name with
  | some value => .ok value
  | none => .error (.missingValue name environment.pattern)

/-- What a value is needed as, or an error if it is not that. -/
def require {α : Type} (name : String) (expected : Expectation) :
    Option α → Except Failure α
  | some found => .ok found
  | none => .error (.unsuitableValue name expected)

/-- The number of a name. -/
def number (environment : Environment) (name : String) : Except Failure Float := do
  let value ← environment.value name
  require name .number value.number?

/-- The key of the branch that a name selects. -/
def branchKey (environment : Environment) (name : String) : Except Failure String := do
  let value ← environment.value name
  require name .string value.branchKey?

/-- The text of a number in a style. -/
def numberText (environment : Environment) (name : String) (style : Option Style)
    (value : Value) : Except Failure String := do
  let number ← require name .number value.number?
  let options ← environment.styles.numberSet environment.sheet style
  environment.provider.formatNumber environment.locale number options

/-- The text of a point in time, as a time in the category of times and as a
date in any other. -/
def dateTimeText (environment : Environment) (category : Category) (millis : Int64)
    (style : Option Style) : Except Failure String := do
  let options ← environment.styles.dateTimeSet environment.sheet category style
  match category with
  | .time => environment.provider.formatTime environment.locale millis options
  | .date | .number => environment.provider.formatDate environment.locale millis options

/-- The text of a placeholder with a category.  Blank values have none. -/
def formattedText (environment : Environment) (category : Category) (name : String)
    (style : Option Style) : Except Failure String := do
  let value ← environment.value name
  if value.isBlank then .ok ""
  else match category with
    | .number => environment.numberText name style value
    | .date | .time => do
        let millis ← require name .date value.epochMillis?
        environment.dateTimeText category millis style

/-- Gather the value of a plain placeholder: a rich value as it is, a date in
the default style, and any other value by its plain text. -/
def gatherArgument (environment : Environment) (value : Value) (gathered : Gathered) :
    Except Failure Gathered :=
  if value.isBlank then .ok gathered
  else match value with
    | .rich handle => .ok (gathered.add (.argument (.rich handle)))
    | .date millis => (environment.dateTimeText .date millis none).map gathered.addText
    | plain => .ok (gathered.addText plain.write)

/-- The text of a number sign, for the number of the nearest plural. -/
def poundText (environment : Environment) : Option Float → Except Failure String
  | some number => environment.provider.formatNumber environment.locale number {}
  | none => .error .poundOutsidePlural

/-- The branch that a number takes. -/
def selectPlural {β : Type} (environment : Environment) (name : String)
    (branches : List (PluralKey × β)) (value : Float) (rule : PluralRule) : Traced β :=
  environment.provider.selectPlural environment.locale name branches value rule

/-- The branch of a key, or the branch `other`. -/
def selectBranch {β : Type} (name : String) (branches : List (String × β)) (key : String) :
    Traced β :=
  match (branches.lookup key).or (branches.lookup otherKey) with
  | some branch => do
      Traced.report (.selectBranch name key)
      pure branch
  | none => Traced.ofExcept (.error (.missingOther name))

end Environment

end IcuMessage
