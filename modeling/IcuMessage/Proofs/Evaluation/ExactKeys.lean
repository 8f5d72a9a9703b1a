import IcuMessage.Formatter.Basic
import IcuMessage.Proofs.Decimal.Arithmetic
import IcuMessage.Proofs.Evaluation.Gathering
import IcuMessage.Proofs.Evaluation.Lookups

/-!
# Branches for integers

A plural reckons in floats.  It takes an integer for the nearest float, and so it does with
its offset; the difference of the two is rounded once more.  `adjustedValue` is this number,
and a branch for an integer is taken exactly if the number is that integer and is below
`2 ^ 63` in magnitude (`integer_takes_own_branch`).

As long as nothing has to be rounded, which is the case up to `2 ^ 53`, this is the
difference of the integers themselves.  Beyond that two integers can have one branch
(`neighbour_takes_own_branch`).
-/

namespace IcuMessage

open Binary64

/-- The number by which a plural with an offset chooses its branch for an integer. -/
def adjustedValue (value offset : Int64) : ℚ :=
  nearest (nearest value.toInt - nearest offset.toInt)

/-! ## The number of a plural -/

section Int64

variable (value offset : Int64)

theorem abs_toInt_le : |(value.toInt : ℚ)| ≤ 2 ^ (63 : ℤ) := by
  have lower := value.le_toInt
  have upper := value.toInt_lt
  have within : |value.toInt| ≤ 2 ^ 63 := abs_le.mpr ⟨by omega, by omega⟩
  exact_mod_cast within

theorem stepExponent_toInt_le : stepExponent value.toInt ≤ 63 := by
  rcases eq_or_ne (value.toInt : ℚ) 0 with zero | nonzero
  · rw [zero, stepExponent, abs_zero, Int.log_zero_right]
    norm_num
  · apply stepExponent_le_of_abs_lt nonzero _ (by norm_num)
    calc |(value.toInt : ℚ)| ≤ 2 ^ (63 : ℤ) := abs_toInt_le value
      _ < 2 ^ (63 + 53 : ℤ) := zpow_lt_zpow_right₀ one_lt_two (by norm_num)

/-- An integer of 64 bits is taken for the float nearest to it. -/
theorem value?_floatOfInt64 :
    (ofFloat (floatOfInt64 value)).value? = some (nearest value.toInt) := by
  apply value?_ofInt
  calc |(value.toInt : ℚ)| ≤ 2 ^ (63 : ℤ) := abs_toInt_le value
    _ = 2 ^ 63 := zpow_natCast 2 63
    _ < 2 ^ 1023 := pow_lt_pow_right₀ one_lt_two (by norm_num)

/-- The float that is left of an integer and an offset. -/
theorem value?_adjusted :
    (ofFloat (floatOfInt64 value - floatOfInt64 offset)).value? =
      some (adjustedValue value offset) := by
  have first := abs_nearest_le (abs_toInt_le value) (stepExponent_toInt_le value)
  have second := abs_nearest_le (abs_toInt_le offset) (stepExponent_toInt_le offset)
  apply value?_sub (value?_floatOfInt64 value) (value?_floatOfInt64 offset)
  calc |nearest value.toInt - nearest offset.toInt|
      ≤ |nearest value.toInt| + |nearest offset.toInt| := abs_sub _ _
    _ ≤ 2 ^ (63 : ℤ) + 2 ^ (63 : ℤ) := add_le_add first second
    _ = 2 ^ 64 := by norm_num
    _ < 2 ^ 1023 := pow_lt_pow_right₀ one_lt_two (by norm_num)

variable {value offset}

/-- Integers that are floats, and whose difference is one, are subtracted exactly. -/
theorem adjustedValue_of_exact (exact : nearest value.toInt = value.toInt)
    (exactOffset : nearest offset.toInt = offset.toInt)
    (exactDifference :
      nearest ((value.toInt - offset.toInt : ℤ) : ℚ) = (value.toInt - offset.toInt : ℤ)) :
    adjustedValue value offset = (value.toInt - offset.toInt : ℤ) := by
  rw [adjustedValue, exact, exactOffset, ← Int.cast_sub, exactDifference]

/-- The number of a plural is a key if it is the integer of the key and in range. -/
theorem isWhole_adjusted_iff {key : Int64} :
    IsWhole (floatOfInt64 value - floatOfInt64 offset) key ↔
      adjustedValue value offset = key.toInt ∧ |adjustedValue value offset| < 2 ^ 63 := by
  have denotes := value?_adjusted value offset
  constructor
  · rintro ⟨exact, bounded⟩
    have same : adjustedValue value offset = key.toInt :=
      Option.some.inj (denotes.symm.trans exact)
    have within : |key.toInt| < 2 ^ 63 := by
      rw [Int.abs_eq_natAbs]
      exact_mod_cast bounded
    refine ⟨same, ?_⟩
    rw [same]
    exact_mod_cast within
  · rintro ⟨same, within⟩
    rw [same] at denotes within
    have bounded : |key.toInt| < 2 ^ 63 := by exact_mod_cast within
    rw [Int.abs_eq_natAbs] at bounded
    exact ⟨denotes, by exact_mod_cast bounded⟩

end Int64

/-! ## Branches -/

theorem lookup_pair {κ β : Type} [DecidableEq κ] (asked first second : κ) (own other : β) :
    [(first, own), (second, other)].lookup asked =
      if asked = first then some own else if asked = second then some other else none := by
  by_cases same : asked = first
  · simp [same]
  · by_cases next : asked = second
    · subst next
      simp [List.lookup_cons, same, beq_false_of_ne same]
    · simp [List.lookup_cons, same, next, beq_false_of_ne same, beq_false_of_ne next]

section Plural

variable {environment : Environment} {name : String} {rule : PluralRule}
  {value offset key : Int64} {own other : Message} {pound : Option Float}

/-- The plural of an integer stands for what its branch stands for. -/
theorem outcome_plural_of_integer {branch : Message} {branches : List (PluralKey × Message)}
    (bound : environment.values.lookup name = some (.integer value))
    (taken : (environment.selectPlural name branches
      (floatOfInt64 value - floatOfInt64 offset) rule).outcome = .ok branch) :
    (Message.partsIn [.plural name rule offset branches] environment pound).outcome =
      (branch.partsIn environment
        (some (floatOfInt64 value - floatOfInt64 offset))).outcome := by
  have number : environment.number name = .ok (floatOfInt64 value) :=
    Environment.number_eq_ok_iff.mpr ⟨_, bound, rfl⟩
  simp only [Message.outcome_partsIn, Message.gatherIn_plural, number, ok_bind, taken,
    Message.gatherIn_nil]
  cases branch.gatherIn environment _ _ <;> rfl

/-- A number takes the branch of its key, and the provider is not asked. -/
theorem selectPlural_of_key
    (whole : IsWhole (floatOfInt64 value - floatOfInt64 offset) key) :
    (environment.selectPlural name [(.exact key, own), (.other, other)]
      (floatOfInt64 value - floatOfInt64 offset) rule).outcome = .ok own := by
  apply Provider.outcome_selectPlural_of_own
  exact ⟨key, whole, by simp⟩

/-- Any other number takes the branch `other`, whatever its category is. -/
theorem selectPlural_of_not_key {category : PluralCategory}
    (notWhole : ¬ IsWhole (floatOfInt64 value - floatOfInt64 offset) key)
    (answer : environment.provider.pluralCategory environment.locale
      (floatOfInt64 value - floatOfInt64 offset) rule = .ok category) :
    (environment.selectPlural name [(.exact key, own), (.other, other)]
      (floatOfInt64 value - floatOfInt64 offset) rule).outcome = .ok other := by
  have notOwn : ∀ branch, ¬ Provider.OwnBranch [(.exact key, own), (.other, other)]
      (floatOfInt64 value - floatOfInt64 offset) branch := by
    rintro branch ⟨integer, whole, present⟩
    have different : integer ≠ key := by
      rintro rfl
      exact notWhole whole
    simp [lookup_pair, PluralKey.other, different] at present
  rw [Environment.selectPlural,
    Provider.outcome_selectPlural_of_not_own _ _ _ _ _ _ notOwn, answer, ok_bind,
    Provider.categoryBranch]
  cases category <;> simp [lookup_pair, PluralKey.other]

end Plural

/-- A plural with a branch for one integer and a branch `other`.  An integer takes the first
if the number that is left of it and the offset is the integer of the branch and is less than
`2 ^ 63` in magnitude; otherwise it takes the second.  The provider only has to answer, and
a number sign stands for the number that is left.

This number is the difference of the integers if the integers and their difference are
floats, as all integers up to `2 ^ 53` are. -/
theorem integer_takes_own_branch
    {formatter : Formatter}
    {values : Bindings}
    {name : String}
    {rule : PluralRule}
    {value offset key : Int64}
    {own other : Message}
    (message : formatter.message =
      [.plural name rule offset [(.exact key, own), (.other, other)]])
    (bound : values.lookup name = some (.integer value))
    (answers : ∀ tag number rule, ∃ category,
      formatter.provider.pluralCategory tag number rule = .ok category) :
    (∃ adjusted : Float,
      (ofFloat adjusted).value? = some (adjustedValue value offset) ∧
        (formatter.formatToParts values).outcome =
          ((if adjustedValue value offset = key.toInt ∧
                |adjustedValue value offset| < 2 ^ 63 then own else other).partsIn
            (formatter.environment values) (some adjusted)).outcome) ∧
      (nearest value.toInt = value.toInt →
        nearest offset.toInt = offset.toInt →
        nearest ((value.toInt - offset.toInt : ℤ) : ℚ) = (value.toInt - offset.toInt : ℤ) →
        adjustedValue value offset = (value.toInt - offset.toInt : ℤ)) ∧
      (value.toInt.natAbs ≤ 2 ^ 53 →
        offset.toInt.natAbs ≤ 2 ^ 53 →
        (value.toInt - offset.toInt).natAbs ≤ 2 ^ 53 →
        (adjustedValue value offset = key.toInt ∧ |adjustedValue value offset| < 2 ^ 63 ↔
          value.toInt - offset.toInt = key.toInt)) := by
  refine ⟨⟨floatOfInt64 value - floatOfInt64 offset, value?_adjusted value offset, ?_⟩,
    adjustedValue_of_exact, ?_⟩
  · rw [Formatter.formatToParts, Message.parts, message]
    apply outcome_plural_of_integer bound
    split
    case isTrue taken => exact selectPlural_of_key (isWhole_adjusted_iff.mpr taken)
    case isFalse notTaken =>
      rcases answers formatter.locale (floatOfInt64 value - floatOfInt64 offset) rule with
        ⟨category, answer⟩
      exact selectPlural_of_not_key (fun whole => notTaken (isWhole_adjusted_iff.mp whole)) answer
  · intro small smallOffset smallDifference
    rw [adjustedValue_of_exact (nearest_intCast small) (nearest_intCast smallOffset)
      (nearest_intCast smallDifference)]
    constructor
    · rintro ⟨same, _⟩
      exact_mod_cast same
    · intro same
      refine ⟨by exact_mod_cast same, ?_⟩
      have within : |value.toInt - offset.toInt| < 2 ^ 63 := by
        rw [Int.abs_eq_natAbs]
        omega
      exact_mod_cast within

/-- A provider for which all numbers have one category. -/
def uniformProvider : Provider :=
  { Provider.locales with pluralCategory := fun _ _ _ => .ok .other }

/-- The text of a pattern with one integer bound to `x`. -/
def textWithInteger (pattern : String) (value : Int64) : Except Failure String := do
  let formatter ←
    (Formatter.create (.pattern pattern) ["en"] {} { provider := uniformProvider }).outcome
  (formatter.format [("x", .integer value)]).outcome

/-- The key is not the difference `2 ^ 63 - 1 - 1024`, but the float nearest to it. -/
theorem integer_takes_own_branch_greatest :
    ∃ formatter : Formatter,
      formatter.message =
          [.plural "x" .cardinal 1024
            [(.exact 9223372036854774784, [.literal "A"]), (.other, [.literal "B"])]] ∧
        (∀ tag number rule, ∃ category,
          formatter.provider.pluralCategory tag number rule = .ok category) ∧
        ∃ adjusted,
          (ofFloat adjusted).value? = some 9223372036854774784 ∧
            (formatter.formatToParts [("x", .integer 9223372036854775807)]).outcome =
              (Message.partsIn [.literal "A"]
                (formatter.environment [("x", .integer 9223372036854775807)])
                (some adjusted)).outcome := by
  obtain ⟨formatter, message, uniform⟩ : ∃ formatter : Formatter,
      formatter.message =
          [.plural "x" .cardinal 1024
            [(.exact 9223372036854774784, [.literal "A"]), (.other, [.literal "B"])]] ∧
        formatter.provider = uniformProvider :=
    ⟨⟨"", _, .english, uniformProvider, {}, {}, {}⟩, rfl, rfl⟩
  have answers : ∀ tag number rule, ∃ category,
      formatter.provider.pluralCategory tag number rule = .ok category := by
    intro tag number rule
    rw [uniform]
    exact ⟨.other, rfl⟩
  have left : adjustedValue 9223372036854775807 1024 = 9223372036854774784 := by
    decide +kernel
  have bound : List.lookup "x" [("x", Value.integer 9223372036854775807)] =
      some (.integer 9223372036854775807) := rfl
  rcases (integer_takes_own_branch message bound answers).1 with
    ⟨adjusted, denotes, taken⟩
  rw [left] at denotes taken
  refine ⟨formatter, message, answers, adjusted, denotes, ?_⟩
  rwa [if_pos (by decide +kernel)] at taken

/-- Two integers beyond `2 ^ 53` have one branch, and the least integer has none of its
own: a branch for an integer does not tell all integers apart. -/
theorem neighbour_takes_own_branch :
    (∀ tag number rule, ∃ category,
      uniformProvider.pluralCategory tag number rule = .ok category) ∧
      textWithInteger
          "\x7bx, plural, offset:0 =9007199254740992 \x7bA\x7d other \x7bB\x7d\x7d"
          9007199254740993 = .ok "A" ∧
      (9007199254740993 : Int64).toInt - (0 : Int64).toInt ≠ (9007199254740992 : Int64).toInt ∧
      textWithInteger
          "\x7bx, plural, offset:0 =-9223372036854775808 \x7bA\x7d other \x7bB\x7d\x7d"
          (-9223372036854775808) = .ok "B" := by
  refine ⟨fun _ _ _ => ⟨.other, rfl⟩, ?_, ?_, ?_⟩
  · decide +kernel
  · decide
  · decide +kernel

end IcuMessage
