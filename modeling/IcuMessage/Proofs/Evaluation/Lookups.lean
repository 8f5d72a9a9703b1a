import IcuMessage.Evaluation.Environment
import IcuMessage.Proofs.Outcome

/-!
# What is found for a name

What an environment finds for a name is read off the value that the name is bound to: its
number, the key of its branch, and the text of a placeholder.  Nothing is found exactly if
the name is not bound or its value is not of the kind that is needed.
-/

namespace IcuMessage

namespace Environment

variable {environment : Environment} {name : String} {error : Failure}

/-- A name has the value that it is bound to. -/
theorem value_eq_ok_iff
    {found : Value} :
    environment.value name = .ok found ↔ environment.values.lookup name = some found := by
  rw [value]
  cases environment.values.lookup name <;> simp

/-- A name has no value exactly if it is not bound, and then the pattern is quoted. -/
theorem value_eq_error_iff :
    environment.value name = .error error ↔
      environment.values.lookup name = none ∧
        error = .missingValue name environment.pattern := by
  rw [value]
  cases environment.values.lookup name <;> simp [eq_comm]

section Required

variable {α : Type} {expected : Expectation}

theorem require_eq_ok_iff
    {asked : Option α}
    {found : α} :
    require name expected asked = .ok found ↔ asked = some found := by
  cases asked <;> simp [require]

theorem require_eq_error_iff
    {asked : Option α} :
    require name expected asked = .error error ↔
      asked = none ∧ error = .unsuitableValue name expected := by
  cases asked <;> simp [require, eq_comm]

variable {read : Value → Option α}

/-- What a name is needed as is read off the value that it is bound to. -/
theorem required_eq_ok_iff
    {found : α} :
    (environment.value name >>= fun bound => require name expected (read bound)) = .ok found ↔
      ∃ bound, environment.values.lookup name = some bound ∧ read bound = some found := by
  simp only [bind_eq_ok_iff, value_eq_ok_iff, require_eq_ok_iff]

/-- What a name is needed as is not found exactly if the name is not bound, or if its value
is not that. -/
theorem required_eq_error_iff :
    (environment.value name >>= fun bound => require name expected (read bound)) =
        .error error ↔
      environment.values.lookup name = none ∧
          error = .missingValue name environment.pattern ∨
        ∃ bound, environment.values.lookup name = some bound ∧ read bound = none ∧
          error = .unsuitableValue name expected := by
  simp only [bind_eq_error_iff, value_eq_ok_iff, value_eq_error_iff, require_eq_error_iff]

end Required

/-- A name counts as a number exactly if it is bound to a value that is or denotes that
number. -/
theorem number_eq_ok_iff
    {number : Float} :
    environment.number name = .ok number ↔
      ∃ bound, environment.values.lookup name = some bound ∧ bound.number? = some number :=
  required_eq_ok_iff

/-- A name counts as no number exactly if it is not bound, or bound to a value that denotes
none. -/
theorem number_eq_error_iff :
    environment.number name = .error error ↔
      environment.values.lookup name = none ∧
          error = .missingValue name environment.pattern ∨
        ∃ bound, environment.values.lookup name = some bound ∧ bound.number? = none ∧
          error = .unsuitableValue name .number :=
  required_eq_error_iff

/-- A name selects a key exactly if it is bound to a value with that key. -/
theorem branchKey_eq_ok_iff
    {key : String} :
    environment.branchKey name = .ok key ↔
      ∃ bound, environment.values.lookup name = some bound ∧ bound.branchKey? = some key :=
  required_eq_ok_iff

/-- A name selects no key exactly if it is not bound, or bound to a value without one. -/
theorem branchKey_eq_error_iff :
    environment.branchKey name = .error error ↔
      environment.values.lookup name = none ∧
          error = .missingValue name environment.pattern ∨
        ∃ bound, environment.values.lookup name = some bound ∧ bound.branchKey? = none ∧
          error = .unsuitableValue name .string :=
  required_eq_error_iff

/-- A number is written as the provider writes it in its style. -/
theorem numberText_eq_ok_iff
    {style : Option Style}
    {bound : Value}
    {text : String} :
    environment.numberText name style bound = .ok text ↔
      ∃ number options, bound.number? = some number ∧
        environment.styles.numberSet environment.sheet style = .ok options ∧
        environment.provider.formatNumber environment.locale number options = .ok text := by
  simp only [numberText, bind_eq_ok_iff, require_eq_ok_iff, exists_and_left]

/-- A placeholder with a category has a text exactly if its name is bound to a blank value,
whose text is empty, or to a value of the category, which the provider writes in the
style. -/
theorem formattedText_eq_ok_iff
    {category : Category}
    {style : Option Style}
    {text : String} :
    environment.formattedText category name style = .ok text ↔
      ∃ bound, environment.values.lookup name = some bound ∧
        if bound.isBlank then text = ""
        else match category with
          | .number => ∃ number options, bound.number? = some number ∧
              environment.styles.numberSet environment.sheet style = .ok options ∧
              environment.provider.formatNumber environment.locale number options = .ok text
          | .date | .time => ∃ millis, bound.epochMillis? = some millis ∧
              environment.dateTimeText category millis style = .ok text := by
  simp only [formattedText, bind_eq_ok_iff, value_eq_ok_iff]
  refine exists_congr fun bound => and_congr_right fun _ => ?_
  cases bound.isBlank with
  | true => simp [eq_comm]
  | false => cases category <;> simp [bind_eq_ok_iff, require_eq_ok_iff, numberText_eq_ok_iff]

/-- A number sign is written as the provider writes the number of the nearest plural. -/
theorem poundText_eq_ok_iff
    {pound : Option Float}
    {text : String} :
    environment.poundText pound = .ok text ↔
      ∃ number, pound = some number ∧
        environment.provider.formatNumber environment.locale number {} = .ok text := by
  cases pound <;> simp [poundText]

/-- A number sign fails exactly if there is no plural around it, or as the provider fails
with the number of the plural. -/
theorem poundText_eq_error_iff
    {pound : Option Float} :
    environment.poundText pound = .error error ↔
      pound = none ∧ error = .poundOutsidePlural ∨
        ∃ number, pound = some number ∧
          environment.provider.formatNumber environment.locale number {} = .error error := by
  cases pound <;> simp [poundText, eq_comm]

end Environment

end IcuMessage
