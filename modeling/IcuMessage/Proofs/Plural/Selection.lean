import IcuMessage.Plural.Selection
import IcuMessage.Proofs.Decimal.ExactValue
import IcuMessage.Proofs.Outcome

/-!
# The branch of a plural, by rules

`PluralChoice` says by rules which branch a plural takes for a number.  A whole
number with a branch of its own takes that branch, whatever the provider is;
only otherwise is the provider asked.  `outcome_selectPlural_iff` states that
the selection follows these rules.
-/

namespace IcuMessage

/-- A number is exactly an integer of less than 64 bits. -/
structure IsWhole (number : Float) (key : Int64) : Prop where
  exact : (Binary64.ofFloat number).value? = some (key.toInt : ℚ)
  bounded : key.toInt.natAbs < 2 ^ 63

/-- A number is found to be whole exactly if it is an integer of less than 64 bits. -/
theorem wholeNumber?_eq_some_iff (number : Float) (key : Int64) :
    wholeNumber? number = some key ↔ IsWhole number key := by
  have denotes := Binary64.integer?_eq_some_iff (Binary64.ofFloat number)
  constructor
  · intro found
    simp only [wholeNumber?, Nat.pow_eq] at found
    split at found
    case h_2 => cases found
    case h_1 whole integer =>
      split at found
      case isFalse => cases found
      case isTrue bounded =>
        obtain rfl := Option.some.inj found
        have kept : (Int64.ofInt whole).toInt = whole :=
          Int64.toInt_ofInt_of_le (by omega) (by omega)
        exact ⟨by rw [kept]; exact (denotes whole).mp integer, by rw [kept]; exact bounded⟩
  · rintro ⟨exact, bounded⟩
    rw [wholeNumber?, (denotes _).mpr exact]
    simp only [Nat.pow_eq, bounded, if_true, Int64.ofInt_toInt]

namespace Provider

variable {β : Type}

/-- A number has a branch of its own. -/
def OwnBranch (branches : List (PluralKey × β)) (number : Float) (branch : β) : Prop :=
  ∃ key, IsWhole number key ∧ branches.lookup (.exact key) = some branch

/-- The branch that a number takes among those of a plural, or why it takes none. -/
inductive PluralChoice (provider : Provider) (tag : LocaleTag) (name : String)
    (branches : List (PluralKey × β)) (number : Float) (rule : PluralRule) :
    Except Failure β → Prop where
  /-- The branch of the number itself, for which the provider is not asked. -/
  | own {branch : β} (own : OwnBranch branches number branch) :
      PluralChoice provider tag name branches number rule (.ok branch)
  | category {category : PluralCategory} {branch : β}
      (notOwn : ∀ branch, ¬ OwnBranch branches number branch)
      (sorted : provider.pluralCategory tag number rule = .ok category)
      (found : branches.lookup (.category category) = some branch) :
      PluralChoice provider tag name branches number rule (.ok branch)
  | other {category : PluralCategory} {branch : β}
      (notOwn : ∀ branch, ¬ OwnBranch branches number branch)
      (sorted : provider.pluralCategory tag number rule = .ok category)
      (missing : branches.lookup (.category category) = none)
      (found : branches.lookup .other = some branch) :
      PluralChoice provider tag name branches number rule (.ok branch)
  | noOther {category : PluralCategory}
      (notOwn : ∀ branch, ¬ OwnBranch branches number branch)
      (sorted : provider.pluralCategory tag number rule = .ok category)
      (missing : branches.lookup (.category category) = none)
      (noOther : branches.lookup .other = none) :
      PluralChoice provider tag name branches number rule (.error (.missingOther name))
  | refused {error : Failure}
      (notOwn : ∀ branch, ¬ OwnBranch branches number branch)
      (refused : provider.pluralCategory tag number rule = .error error) :
      PluralChoice provider tag name branches number rule (.error error)

/-- The branch that a number takes is one of the branches. -/
theorem PluralChoice.mem {provider : Provider} {tag : LocaleTag} {name : String}
    {branches : List (PluralKey × β)} {number : Float} {rule : PluralRule} {branch : β}
    (choice : PluralChoice provider tag name branches number rule (.ok branch)) :
    ∃ key, (key, branch) ∈ branches := by
  cases choice with
  | own own =>
      rcases own with
        ⟨key, _, found⟩
      exact ⟨.exact key, Table.mem_of_lookup found⟩
  | category _ _ found => exact ⟨_, Table.mem_of_lookup found⟩
  | other _ _ _ found => exact ⟨_, Table.mem_of_lookup found⟩

theorem exactBranch?_eq_some_iff {branches : List (PluralKey × β)} {number : Float}
    {branch : β} :
    (∃ key, exactBranch? branches number = some (key, branch)) ↔
      OwnBranch branches number branch := by
  simp only [exactBranch?, OwnBranch, Option.bind_eq_some_iff, Option.map_eq_some_iff,
    Prod.mk.injEq, wholeNumber?_eq_some_iff]
  constructor
  · rintro ⟨_, key, whole, _, found, rfl, rfl⟩
    exact ⟨key, whole, found⟩
  · rintro ⟨key, whole, found⟩
    exact ⟨key, key, whole, branch, found, rfl, rfl⟩

theorem exactBranch?_eq_none_iff {branches : List (PluralKey × β)} {number : Float} :
    exactBranch? branches number = none ↔
      ∀ branch, ¬ OwnBranch branches number branch := by
  constructor
  · intro none branch own
    rcases exactBranch?_eq_some_iff.mpr own with
      ⟨key, found⟩
    simp [none] at found
  · intro notOwn
    rcases found : exactBranch? branches number with _ | ⟨key, branch⟩
    · rfl
    · exact absurd (exactBranch?_eq_some_iff.mp ⟨key, found⟩) (notOwn branch)

variable (provider : Provider) (tag : LocaleTag) (name : String)
  (branches : List (PluralKey × β)) (number : Float) (rule : PluralRule)

theorem outcome_selectPlural :
    (provider.selectPlural tag name branches number rule).outcome =
      match exactBranch? branches number with
      | some (_, branch) => .ok branch
      | none => provider.pluralCategory tag number rule >>= fun category =>
          categoryBranch name category branches := by
  rw [selectPlural]
  cases exactBranch? branches number with
  | some found => rfl
  | none =>
      simp only [selectCategory, Traced.outcome_bind, Traced.outcome_liftM,
        Traced.outcome_report, ok_bind]

/-- A number with a branch of its own takes it, whatever the provider says. -/
theorem outcome_selectPlural_of_own {branch : β}
    (own : OwnBranch branches number branch) :
    (provider.selectPlural tag name branches number rule).outcome = .ok branch := by
  rcases exactBranch?_eq_some_iff.mpr own with
    ⟨key, found⟩
  rw [outcome_selectPlural, found]

/-- Any other number takes the branch of its category. -/
theorem outcome_selectPlural_of_not_own
    (notOwn : ∀ branch, ¬ OwnBranch branches number branch) :
    (provider.selectPlural tag name branches number rule).outcome =
      (provider.pluralCategory tag number rule >>= fun category =>
        categoryBranch name category branches) := by
  rw [outcome_selectPlural, exactBranch?_eq_none_iff.mpr notOwn]

theorem exactBranch?_map {γ : Type} (change : β → γ) :
    exactBranch? (branches.map fun branch => (branch.1, change branch.2)) number =
      (exactBranch? branches number).map fun found => (found.1, change found.2) := by
  simp only [exactBranch?, Table.lookup_map, Option.map_bind, Function.comp_def,
    Option.map_map]

theorem categoryBranch_map {γ : Type} (change : β → γ) (category : PluralCategory) :
    categoryBranch name category (branches.map fun branch => (branch.1, change branch.2)) =
      (categoryBranch name category branches).map change := by
  simp only [categoryBranch, Table.lookup_map]
  cases branches.lookup (.category category) <;> cases branches.lookup .other <;> rfl

/-- Which branch a number takes does not depend on what the branches hold. -/
theorem outcome_selectPlural_map {γ : Type} (change : β → γ) :
    (provider.selectPlural tag name
        (branches.map fun branch => (branch.1, change branch.2)) number rule).outcome =
      (provider.selectPlural tag name branches number rule).outcome.map change := by
  simp only [outcome_selectPlural, exactBranch?_map, categoryBranch_map]
  cases exactBranch? branches number with
  | some found => rfl
  | none => cases provider.pluralCategory tag number rule <;> rfl

/-- Selection follows the rules. -/
theorem outcome_selectPlural_iff (result : Except Failure β) :
    (provider.selectPlural tag name branches number rule).outcome = result ↔
      PluralChoice provider tag name branches number rule result := by
  constructor
  · rintro rfl
    by_cases own : ∃ branch, OwnBranch branches number branch
    · rcases own with
        ⟨branch, own⟩
      rw [outcome_selectPlural_of_own provider tag name branches number rule own]
      exact .own own
    · have notOwn := not_exists.mp own
      rw [outcome_selectPlural_of_not_own provider tag name branches number rule notOwn]
      cases sorted : provider.pluralCategory tag number rule with
      | error error => exact .refused notOwn sorted
      | ok category =>
          rw [ok_bind, categoryBranch]
          cases found : branches.lookup (.category category) with
          | some branch => exact .category notOwn sorted found
          | none =>
              cases other : branches.lookup .other with
              | some branch => exact .other notOwn sorted found other
              | none => exact .noOther notOwn sorted found other
  · intro choice
    cases choice with
    | own own => exact outcome_selectPlural_of_own provider tag name branches number rule own
    | category notOwn sorted found =>
        rw [outcome_selectPlural_of_not_own _ _ _ _ _ _ notOwn]
        simp [sorted, categoryBranch, found]
    | other notOwn sorted missing found =>
        rw [outcome_selectPlural_of_not_own _ _ _ _ _ _ notOwn]
        simp [sorted, categoryBranch, missing, found]
    | noOther notOwn sorted missing noOther =>
        rw [outcome_selectPlural_of_not_own _ _ _ _ _ _ notOwn]
        simp [sorted, categoryBranch, missing, noOther]
    | refused notOwn refused =>
        rw [outcome_selectPlural_of_not_own _ _ _ _ _ _ notOwn]
        simp [refused]

end Provider

end IcuMessage
