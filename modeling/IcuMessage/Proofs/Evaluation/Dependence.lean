import IcuMessage.Proofs.Evaluation.Agreement
import IcuMessage.Proofs.Message.Walk

/-!
# What validation and evaluation depend on

Two style sheets cannot be told apart by a message if they agree on the styles that
it mentions, each in its category, and neither can two bags of values if they agree
on the names that it mentions: validation and evaluation give the same, events
included (`Message.validate_congr` and `Message.evaluate_congr`).
-/

namespace IcuMessage

/-! ## Agreement -/

/-- Two style sheets have the same under a name in a category. -/
def StyleSheet.SameStyle (sheet other : StyleSheet) (category : Category) (name : String) :
    Prop :=
  match category with
  | .number => sheet.number.lookup name = other.number.lookup name
  | .date => sheet.date.lookup name = other.date.lookup name
  | .time => sheet.time.lookup name = other.time.lookup name

/-- Two style sheets have the same under every style that a message mentions. -/
def Message.SameStyles (message : Message) (sheet other : StyleSheet) : Prop :=
  ∀ category name, message.MentionsStyle category name → sheet.SameStyle other category name

/-- Two bags of values have the same under every name that a message mentions. -/
def Message.SameValues (message : Message) (values others : Bindings) : Prop :=
  ∀ name, message.Mentions name → values.lookup name = others.lookup name

/-- Two style sheets agree on what a placeholder may ask for in a category. -/
def StyleSheet.SameFor (sheet other : StyleSheet) (category : Category)
    (style : Option Style) : Prop :=
  ∀ name, style = some (.named name) → sheet.SameStyle other category name

theorem Message.SameStyles.sameFor
    {message : Message}
    {sheet other : StyleSheet}
    {category : Category}
    {name : String}
    {style : Option Style}
    (same : message.SameStyles sheet other)
    (contained : message.Contains (.formatted category name style)) :
    sheet.SameFor other category style := by
  rintro named rfl
  exact same category named ⟨name, contained⟩

/-! ## Styles -/

section Styles

variable {sheet other : StyleSheet} {category : Category} {style : Option Style}

/-- Sheets that agree for a style resolve it alike for numbers. -/
theorem StyleSheet.resolveNumber_congr
    (same : sheet.SameFor other .number style) :
    sheet.resolveNumber style = other.resolveNumber style := by
  rcases style with _ | name | text
  · rfl
  · have lookup : sheet.number.lookup name = other.number.lookup name := same name rfl
    rw [resolveNumber, resolveNumber, lookup]
  · rfl

theorem StyleSheet.resolveDateTime_congr
    (same : sheet.SameFor other category style)
    (asked : category ≠ .number) :
    sheet.resolveDateTime category style = other.resolveDateTime category style := by
  rcases style with _ | name | text
  · cases category <;> rfl
  · have named := same name rfl
    cases category with
    | number => exact absurd rfl asked
    | date =>
        have lookup : sheet.date.lookup name = other.date.lookup name := named
        rw [resolveDateTime, resolveDateTime, resolveDate, resolveDate, lookup]
    | time =>
        have lookup : sheet.time.lookup name = other.time.lookup name := named
        rw [resolveDateTime, resolveDateTime, resolveTime, resolveTime, lookup]
  · cases category <;> rfl

namespace StyleMemo

variable (memo : StyleMemo)

theorem numberSet_congr
    (same : sheet.SameFor other .number style) :
    memo.numberSet sheet style = memo.numberSet other style := by
  rw [numberSet, numberSet, StyleSheet.resolveNumber_congr same]

theorem dateTimeSet_congr
    (same : sheet.SameFor other category style)
    (asked : category ≠ .number) :
    memo.dateTimeSet sheet category style = memo.dateTimeSet other category style := by
  rw [dateTimeSet, dateTimeSet, StyleSheet.resolveDateTime_congr same asked]

/-- A memo keeps the same of a style for which the sheets agree. -/
theorem remember_congr
    (same : sheet.SameFor other category style) :
    memo.remember sheet category style = memo.remember other category style := by
  cases category with
  | number =>
      rw [remember, remember, rememberNumber, rememberNumber,
        StyleSheet.resolveNumber_congr same]
  | date =>
      rw [remember, remember, rememberDateTime, rememberDateTime,
        StyleSheet.resolveDateTime_congr same (by decide)]
  | time =>
      rw [remember, remember, rememberDateTime, rememberDateTime,
        StyleSheet.resolveDateTime_congr same (by decide)]

end StyleMemo

end Styles

/-! ## Validation -/

/-- Validation depends on no style that the message does not mention. -/
theorem Message.validate_congr
    {sheet other : StyleSheet}
    {message : Message}
    (styles : message.SameStyles sheet other)
    (memo : StyleMemo) :
    message.validate sheet memo = message.validate other memo := by
  rw [validate_eq_validateAll_walk, validate_eq_validateAll_walk]
  refine validateAll_congr (fun node passed memo => ?_) memo
  cases node with
  | formatted category name style =>
      have same : sheet.SameFor other category style :=
        styles.sameFor (mem_walk_iff.mp passed)
      exact memo.remember_congr same
  | literal text => rfl
  | argument name => rfl
  | plural name rule offset branches => rfl
  | select name branches => rfl
  | pound => rfl
  | tag name children => rfl

/-! ## Evaluation -/

/-- The environment with another style sheet and other values. -/
def Environment.exchange (environment : Environment) (sheet : StyleSheet)
    (values : Bindings) : Environment :=
  { environment with sheet := sheet, values := values }

section Exchange

variable {environment : Environment} {sheet : StyleSheet} {values : Bindings}

/-- With other values a name that they bind alike has the same value. -/
theorem Environment.value_exchange
    {name : String}
    (same : environment.values.lookup name = values.lookup name) :
    (environment.exchange sheet values).value name = environment.value name := by
  rw [value, value, same]
  rfl

theorem Environment.number_exchange
    {name : String}
    (same : environment.values.lookup name = values.lookup name) :
    (environment.exchange sheet values).number name = environment.number name := by
  rw [number, number, value_exchange same]

theorem Environment.branchKey_exchange
    {name : String}
    (same : environment.values.lookup name = values.lookup name) :
    (environment.exchange sheet values).branchKey name = environment.branchKey name := by
  rw [branchKey, branchKey, value_exchange same]

theorem Environment.dateTimeText_exchange
    {category : Category}
    {style : Option Style}
    (styles : environment.sheet.SameFor sheet category style)
    (asked : category ≠ .number)
    (millis : Int64) :
    (environment.exchange sheet values).dateTimeText category millis style =
      environment.dateTimeText category millis style := by
  rw [dateTimeText, dateTimeText, environment.styles.dateTimeSet_congr styles asked]
  rfl

/-- A placeholder whose name and style agree has the same text. -/
theorem Environment.formattedText_exchange
    {category : Category}
    {name : String}
    {style : Option Style}
    (same : environment.values.lookup name = values.lookup name)
    (styles : environment.sheet.SameFor sheet category style) :
    (environment.exchange sheet values).formattedText category name style =
      environment.formattedText category name style := by
  rw [formattedText, formattedText, value_exchange same]
  refine bind_congr fun value => ?_
  cases category with
  | number =>
      simp only [numberText, environment.styles.numberSet_congr styles]
      rfl
  | date => simp only [dateTimeText_exchange styles (by decide)]
  | time => simp only [dateTimeText_exchange styles (by decide)]

/-- A plain placeholder has no style of its own, so the sheet does not matter. -/
theorem Environment.gatherArgument_exchange
    (value : Value)
    (gathered : Gathered) :
    (environment.exchange sheet values).gatherArgument value gathered =
      environment.gatherArgument value gathered := by
  cases value with
  | date millis =>
      have default : environment.sheet.SameFor sheet .date none := nofun
      show ((environment.exchange sheet values).dateTimeText .date millis none).map _ =
        (environment.dateTimeText .date millis none).map _
      rw [dateTimeText_exchange default (by decide)]
  | _ => rfl

end Exchange

/-- What a message mentions is the same in an environment and after an exchange. -/
structure Message.SameMentioned (message : Message) (environment : Environment)
    (sheet : StyleSheet) (values : Bindings) : Prop where
  styles : message.SameStyles environment.sheet sheet
  names : message.SameValues environment.values values

/-- Evaluation depends on no style and on no value that the message does not mention. -/
theorem Message.evaluate_congr
    {environment : Environment}
    {sheet : StyleSheet}
    {values : Bindings}
    {message : Message}
    (same : message.SameMentioned environment sheet values) :
    Message.evaluate (environment.exchange sheet values) message =
      Message.evaluate environment message := by
  have service : (environment.exchange sheet values).SameService environment := ⟨rfl, rfl, rfl⟩
  refine evaluate_eq_of_agree service fun node contained => ?_
  have bound : ∀ {name}, node.valueName? = some name →
      environment.values.lookup name = values.lookup name :=
    fun asks => same.names _ ⟨node, contained, asks⟩
  cases node with
  | argument name =>
      exact ⟨Environment.value_exchange (bound rfl), Environment.gatherArgument_exchange⟩
  | formatted category name style =>
      exact Environment.formattedText_exchange (bound rfl) (same.styles.sameFor contained)
  | plural name rule offset branches => exact Environment.number_exchange (bound rfl)
  | select name branches => exact Environment.branchKey_exchange (bound rfl)
  | literal text => trivial
  | pound => trivial
  | tag name children => trivial

end IcuMessage
