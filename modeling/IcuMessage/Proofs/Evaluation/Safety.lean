import IcuMessage.Proofs.Evaluation.Gathering
import IcuMessage.Proofs.Evaluation.Lookups
import IcuMessage.Proofs.Message.FreePound
import IcuMessage.Proofs.Message.Mentions
import IcuMessage.Proofs.Message.Validation

/-!
# How an evaluation can fail

`Message.FailureCause` says why a message fails that is ready for the styles of an
environment: a value that it mentions is missing or is not what it is needed as, the
provider fails, or a number sign stands outside all plurals
(`Message.Ready.failsForCause`).  With a provider that does no more than refuse
values, the message fails on account of its values and its free number signs alone
(`Message.gatherIn_failure`).
-/

namespace IcuMessage

/-- A failure on account of the values of a message. -/
def Failure.ConcernsValues : Failure → Prop
  | .missingValue _ _ | .unsuitableValue _ _ | .primitive _ _ => True
  | .invalidSkeleton _ | .unknownStyle _ _ | .missingOther _ | .poundOutsidePlural
  | .unsupportedLocale _ | .invalidPattern _ => False

/-- The provider itself fails in some way, for some number or point in time. -/
inductive Provider.Raises (provider : Provider) (error : Failure) : Prop where
  | number {tag : LocaleTag} {value : Float} {options : NumberOptions}
      (fails : provider.formatNumber tag value options = .error error) :
      Raises provider error
  | date {tag : LocaleTag} {millis : Int64} {options : DateTimeOptions}
      (fails : provider.formatDate tag millis options = .error error) :
      Raises provider error
  | time {tag : LocaleTag} {millis : Int64} {options : DateTimeOptions}
      (fails : provider.formatTime tag millis options = .error error) :
      Raises provider error
  | category {tag : LocaleTag} {value : Float} {rule : PluralRule}
      (fails : provider.pluralCategory tag value rule = .error error) :
      Raises provider error

/-- A provider that does no more than refuse values raises no other failure. -/
theorem Provider.FailsOnlyPrimitively.of_raises
    {provider : Provider}
    {error : Failure}
    (primitive : provider.FailsOnlyPrimitively)
    (raises : provider.Raises error) :
    ∃ category reason, error = .primitive category reason := by
  rcases primitive with
    ⟨numbers, dates, times, categories⟩
  cases raises with
  | number fails => exact numbers _ _ _ _ fails
  | date fails => exact dates _ _ _ _ fails
  | time fails => exact times _ _ _ _ fails
  | category fails => exact categories _ _ _ _ fails

/-- A failure on account of the value of a name: it is missing, it is not what it is
needed as, or the provider fails with it. -/
inductive Environment.BlamesValue (environment : Environment) (name : String) :
    Failure → Prop where
  | missing (unbound : environment.values.lookup name = none) :
      BlamesValue environment name (.missingValue name environment.pattern)
  | unsuitable {expected : Expectation} :
      BlamesValue environment name (.unsuitableValue name expected)
  | refused {error : Failure} (raises : environment.provider.Raises error) :
      BlamesValue environment name error

namespace Environment

variable {environment : Environment} {error : Failure}

/-- A name without a value is blamed as missing. -/
theorem value_failure
    {name : String}
    (failed : environment.value name = .error error) :
    environment.BlamesValue name error := by
  rcases value_eq_error_iff.mp failed with
    ⟨unbound, rfl⟩
  exact .missing unbound

/-- A value that is not what it is needed as is blamed as unsuitable. -/
theorem require_failure
    {α : Type}
    {name : String}
    {expected : Expectation}
    {found : Option α}
    (failed : require name expected found = .error error) :
    environment.BlamesValue name error := by
  rcases require_eq_error_iff.mp failed with
    ⟨_, rfl⟩
  exact .unsuitable

theorem number_failure
    {name : String}
    (failed : environment.number name = .error error) :
    environment.BlamesValue name error := by
  rcases number_eq_error_iff.mp failed with ⟨unbound, rfl⟩ | ⟨_, _, _, rfl⟩
  · exact .missing unbound
  · exact .unsuitable

theorem branchKey_failure
    {name : String}
    (failed : environment.branchKey name = .error error) :
    environment.BlamesValue name error := by
  rcases branchKey_eq_error_iff.mp failed with ⟨unbound, rfl⟩ | ⟨_, _, _, rfl⟩
  · exact .missing unbound
  · exact .unsuitable

/-- A number style that the memo holds resolves. -/
theorem numberSet_ok_of_holds
    {style : Option Style}
    (held : environment.styles.Holds .number style) :
    ∃ options, environment.styles.numberSet environment.sheet style = .ok options := by
  rcases Option.isSome_iff_exists.mp held with
    ⟨options, found⟩
  exact ⟨options, by rw [StyleMemo.numberSet, found]⟩

theorem dateTimeSet_ok_of_found
    {category : Category}
    {style : Option Style}
    (found : (environment.styles.dateTimes.lookup (category, style)).isSome) :
    ∃ options, environment.styles.dateTimeSet environment.sheet category style = .ok options := by
  rcases Option.isSome_iff_exists.mp found with
    ⟨options, found⟩
  exact ⟨options, by rw [StyleMemo.dateTimeSet, found]⟩

/-- The default style of dates resolves, in the memo or not. -/
theorem dateTimeSet_ok_of_default :
    ∃ options, environment.styles.dateTimeSet environment.sheet .date none = .ok options := by
  rw [StyleMemo.dateTimeSet]
  cases environment.styles.dateTimes.lookup (.date, none) with
  | some options => exact ⟨options, rfl⟩
  | none => exact ⟨DateTimeOptions.numericDate, rfl⟩

/-- A number in a style that is held fails for its value or with the provider. -/
theorem numberText_failure
    {name : String}
    {style : Option Style}
    {value : Value}
    (held : environment.styles.Holds .number style)
    (failed : environment.numberText name style value = .error error) :
    environment.BlamesValue name error := by
  rcases numberSet_ok_of_holds held with
    ⟨options, resolved⟩
  simp only [numberText, resolved, ok_bind] at failed
  rcases bind_eq_error_iff.mp failed with unsuitable | ⟨number, _, refused⟩
  · exact require_failure unsuitable
  · exact .refused (.number refused)

/-- A point in time in a style that resolves fails with the provider alone. -/
theorem dateTimeText_failure
    {category : Category}
    {millis : Int64}
    {style : Option Style}
    (resolves :
      ∃ options,
        environment.styles.dateTimeSet environment.sheet category style = .ok options)
    (failed : environment.dateTimeText category millis style = .error error) :
    environment.provider.Raises error := by
  rcases resolves with
    ⟨options, resolved⟩
  rw [dateTimeText, resolved, ok_bind] at failed
  cases category with
  | time => exact .time failed
  | date => exact .date failed
  | number => exact .date failed

/-- A placeholder in a style that is held fails for its value or with the provider. -/
theorem formattedText_failure
    {category : Category}
    {name : String}
    {style : Option Style}
    (held : environment.styles.Holds category style)
    (failed : environment.formattedText category name style = .error error) :
    environment.BlamesValue name error := by
  rcases bind_eq_error_iff.mp failed with missing | ⟨value, _, failed⟩
  · exact value_failure missing
  split at failed
  case isTrue => cases failed
  case isFalse =>
    cases category with
    | number => exact numberText_failure held failed
    | date =>
        rcases bind_eq_error_iff.mp failed with unsuitable | ⟨millis, _, failed⟩
        · exact require_failure unsuitable
        · exact .refused (dateTimeText_failure (dateTimeSet_ok_of_found held) failed)
    | time =>
        rcases bind_eq_error_iff.mp failed with unsuitable | ⟨millis, _, failed⟩
        · exact require_failure unsuitable
        · exact .refused (dateTimeText_failure (dateTimeSet_ok_of_found held) failed)

/-- A plain placeholder with a value fails with the provider alone. -/
theorem gatherArgument_failure
    {value : Value}
    {gathered : Gathered}
    (failed : environment.gatherArgument value gathered = .error error) :
    environment.provider.Raises error := by
  cases value with
  | date millis => exact dateTimeText_failure dateTimeSet_ok_of_default (map_eq_error_iff.mp failed)
  | boolean truth => cases truth <;> cases failed
  | _ => cases failed

/-- A number sign fails with the provider, or outside of all plurals. -/
theorem poundText_failure
    {pound : Option Float}
    (failed : environment.poundText pound = .error error) :
    environment.provider.Raises error ∨ error = .poundOutsidePlural ∧ pound = none := by
  rcases poundText_eq_error_iff.mp failed with ⟨outside, rfl⟩ | ⟨number, _, fails⟩
  · exact Or.inr ⟨rfl, outside⟩
  · exact Or.inl (.number fails)

/-- With a branch `other`, a plural has a branch for every category. -/
theorem selectPlural_failure
    {name : String}
    {branches : List (PluralKey × Message)}
    {number : Float}
    {rule : PluralRule}
    (other : (branches.lookup .other).isSome)
    (failed : (environment.selectPlural name branches number rule).outcome = .error error) :
    environment.provider.Raises error := by
  cases (Provider.outcome_selectPlural_iff _ _ _ _ _ _ _).mp failed with
  | noOther _ _ _ noOther =>
      rw [noOther] at other
      cases other
  | refused _ refused => exact .category refused

/-- With a branch `other`, a select has a branch for every key. -/
theorem selectBranch_ok
    {name : String}
    {branches : List (String × Message)}
    (other : (branches.lookup otherKey).isSome)
    (key : String) :
    ∃ branch ∈ branches, (selectBranch name branches key).outcome = .ok branch.2 := by
  rcases Option.isSome_iff_exists.mp other with
    ⟨fallback, otherFound⟩
  rw [outcome_selectBranch]
  cases found : branches.lookup key with
  | some branch => exact ⟨_, Table.mem_of_lookup found, rfl⟩
  | none => exact ⟨_, Table.mem_of_lookup otherFound, by rw [otherFound]; rfl⟩

end Environment

/-- Why a message fails: for a value that it mentions, with the provider, or for a
number sign that no plural binds, neither in the message nor around it. -/
inductive Message.FailureCause (message : Message) (environment : Environment)
    (pound : Option Float) : Failure → Prop where
  | value {name : String} {error : Failure}
      (mentioned : message.Mentions name)
      (blames : environment.BlamesValue name error) :
      FailureCause message environment pound error
  | refused {error : Failure}
      (raises : environment.provider.Raises error) :
      FailureCause message environment pound error
  | freePound
      (outside : pound = none)
      (free : message.HasFreePound) :
      FailureCause message environment pound .poundOutsidePlural

/-- A failure is on account of the values, or of a number sign of the message
that no plural binds, neither in the message nor around it. -/
def Message.ExcusedFailure (message : Message) (pound : Option Float) (error : Failure) :
    Prop :=
  error.ConcernsValues ∨
    error = .poundOutsidePlural ∧ pound = none ∧ message.HasFreePound

namespace Message

variable {environment : Environment} {error : Failure} {pound : Option Float}

namespace FailureCause

/-- What makes an inner message fail makes the outer one fail. -/
theorem within
    {inner outer : Message}
    {innerPound : Option Float}
    (cause : inner.FailureCause environment innerPound error)
    (contained : inner.Within outer)
    (pounds : innerPound = none → inner.HasFreePound → pound = none ∧ outer.HasFreePound) :
    outer.FailureCause environment pound error := by
  cases cause with
  | value mentioned blames => exact .value (contained.mentions mentioned) blames
  | refused raises => exact .refused raises
  | freePound outside free =>
      rcases pounds outside free with
        ⟨outside, free⟩
      exact .freePound outside free

theorem behind
    {node : Node}
    {rest : Message}
    (cause : rest.FailureCause environment pound error) :
    FailureCause (node :: rest) environment pound error :=
  cause.within (.rest node rest) fun outside free => ⟨outside, .behind free⟩

/-- A value that the first node asks for is one that the message mentions. -/
theorem first
    {node : Node}
    {name : String}
    (asks : node.valueName? = some name)
    (blames : environment.BlamesValue name error)
    (rest : Message) :
    FailureCause (node :: rest) environment pound error :=
  .value (.first asks rest) blames

/-- With a provider that does no more than refuse values, every cause of failure is an
excuse. -/
theorem excused
    {message : Message}
    (cause : message.FailureCause environment pound error)
    (primitive : environment.provider.FailsOnlyPrimitively) :
    message.ExcusedFailure pound error := by
  have refusal (raises : environment.provider.Raises error) : error.ConcernsValues := by
    rcases primitive.of_raises raises with
      ⟨category, reason, rfl⟩
    trivial
  cases cause with
  | value mentioned blames =>
      left
      cases blames with
      | missing unbound => trivial
      | unsuitable => trivial
      | refused raises => exact refusal raises
  | refused raises => exact Or.inl (refusal raises)
  | freePound outside free => exact Or.inr ⟨rfl, outside, free⟩

end FailureCause

/-- Wherever a message is gathered, it fails for no other reason than those that are
listed. -/
def FailsForCause (environment : Environment) (message : Message) : Prop :=
  ∀ pound gathered error, message.gatherIn environment pound gathered = .error error →
    message.FailureCause environment pound error

namespace FailsForCause

theorem cons
    {node : Node}
    {rest : Message}
    (first : FailsForCause environment [node])
    (later : FailsForCause environment rest) :
    FailsForCause environment (node :: rest) := by
  intro pound gathered error failed
  rw [gatherIn_cons] at failed
  rcases bind_eq_error_iff.mp failed with failed | ⟨further, _, failed⟩
  · refine (first _ _ _ failed).within (.first node rest) ?_
    exact fun outside free => ⟨outside, hasFreePound_cons_iff.mpr (.inl free)⟩
  · exact (later _ _ _ failed).behind

theorem literal (text : String) : FailsForCause environment [.literal text] := by
  intro pound gathered error failed
  cases failed

theorem argument (name : String) : FailsForCause environment [.argument name] := by
  intro pound gathered error failed
  rw [gatherIn_argument] at failed
  rcases bind_eq_error_iff.mp failed with missing | ⟨value, _, failed⟩
  · exact .first rfl (Environment.value_failure missing) _
  rcases bind_eq_error_iff.mp failed with refused | ⟨further, _, impossible⟩
  · exact .refused (Environment.gatherArgument_failure refused)
  · cases impossible

theorem formatted
    {category : Category}
    {style : Option Style}
    (held : environment.styles.Holds category style)
    (name : String) :
    FailsForCause environment [.formatted category name style] := by
  intro pound gathered error failed
  rw [gatherIn_formatted] at failed
  rcases bind_eq_error_iff.mp failed with refused | ⟨text, _, impossible⟩
  · exact .first rfl (Environment.formattedText_failure held refused) _
  · cases impossible

/-- The number signs in the branch that is taken are bound. -/
theorem plural
    {branches : List (PluralKey × Message)}
    (name : String)
    (rule : PluralRule)
    (offset : Int64)
    (other : (branches.lookup .other).isSome)
    (inside : ∀ branch ∈ branches, FailsForCause environment branch.2) :
    FailsForCause environment [.plural name rule offset branches] := by
  intro pound gathered error failed
  rw [gatherIn_plural] at failed
  rcases bind_eq_error_iff.mp failed with noNumber | ⟨number, _, failed⟩
  · exact .first rfl (Environment.number_failure noNumber) _
  rcases bind_eq_error_iff.mp failed with noBranch | ⟨branch, taken, failed⟩
  · exact .refused (Environment.selectPlural_failure other noBranch)
  rcases bind_eq_error_iff.mp failed with failed | ⟨further, _, impossible⟩
  · rcases Environment.mem_of_selectPlural taken with
      ⟨key, member⟩
    exact (inside _ member _ _ _ failed).within (.pluralBranch _ _ _ _ member) nofun
  · cases impossible

/-- A select with a branch `other` fails for its value, or as its branch. -/
theorem select
    {branches : List (String × Message)}
    (name : String)
    (other : (branches.lookup otherKey).isSome)
    (inside : ∀ branch ∈ branches, FailsForCause environment branch.2) :
    FailsForCause environment [.select name branches] := by
  intro pound gathered error failed
  rw [gatherIn_select] at failed
  rcases bind_eq_error_iff.mp failed with noKey | ⟨key, _, failed⟩
  · exact .first rfl (Environment.branchKey_failure noKey) _
  rcases Environment.selectBranch_ok other key with
    ⟨branch, member, taken⟩
  rw [taken, ok_bind] at failed
  rcases bind_eq_error_iff.mp failed with failed | ⟨further, _, impossible⟩
  · refine (inside _ member _ _ _ failed).within (.selectBranch _ _ member) ?_
    exact fun outside free => ⟨outside, .select member free⟩
  · cases impossible

theorem numberSign : FailsForCause environment [.pound] := by
  intro pound gathered error failed
  rw [gatherIn_pound] at failed
  rcases bind_eq_error_iff.mp failed with refused | ⟨text, _, impossible⟩
  · rcases Environment.poundText_failure refused with raises | ⟨rfl, outside⟩
    · exact .refused raises
    · exact .freePound outside .here
  · cases impossible

theorem tag
    {children : Message}
    (name : String)
    (inside : FailsForCause environment children) :
    FailsForCause environment [.tag name children] := by
  intro pound gathered error failed
  rw [gatherIn_tag] at failed
  rcases bind_eq_error_iff.mp failed with failed | ⟨inner, _, impossible⟩
  · refine (inside _ _ _ failed).within (.children _ _ _) ?_
    exact fun outside free => ⟨outside, .tag free⟩
  · cases impossible

end FailsForCause

/-- A ready message fails for no other reason than those that are listed. -/
theorem Ready.failsForCause
    {message : Message}
    (ready : message.Ready environment.styles) :
    message.FailsForCause environment := by
  induction ready with
  | nil =>
      intro pound gathered error failed
      cases failed
  | literal _ later => exact .cons (.literal _) later
  | argument _ later => exact .cons (.argument _) later
  | formatted held _ later => exact .cons (.formatted held _) later
  | plural other _ _ inside later => exact .cons (.plural _ _ _ other inside) later
  | select other _ _ inside later => exact .cons (.select _ other inside) later
  | pound _ later => exact .cons .numberSign later
  | tag _ _ inside later => exact .cons (.tag _ inside) later

/-- A ready message fails for no other reason than its values and its free
number signs. -/
theorem gatherIn_failure
    (primitive : environment.provider.FailsOnlyPrimitively)
    {message : Message}
    (ready : message.Ready environment.styles)
    {gathered : Gathered}
    (failed : message.gatherIn environment pound gathered = .error error) :
    message.ExcusedFailure pound error :=
  (ready.failsForCause _ _ _ failed).excused primitive

end Message

end IcuMessage
