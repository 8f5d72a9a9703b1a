/-!
# Outcomes of sequences

A sequence of two computations succeeds if both do, and otherwise fails as the
first of them that fails.
-/

namespace IcuMessage

variable {ε α β : Type}

@[simp]
theorem ok_bind (value : α) (next : α → Except ε β) :
    (Except.ok value >>= next) = next value := rfl

@[simp]
theorem error_bind (error : ε) (next : α → Except ε β) :
    (Except.error error >>= next) = .error error := rfl

theorem bind_eq_ok_iff {first : Except ε α} {next : α → Except ε β} {result : β} :
    (first >>= next) = .ok result ↔ ∃ value, first = .ok value ∧ next value = .ok result := by
  cases first <;> simp

theorem bind_eq_error_iff {first : Except ε α} {next : α → Except ε β} {error : ε} :
    (first >>= next) = .error error ↔
      first = .error error ∨ ∃ value, first = .ok value ∧ next value = .error error := by
  cases first <;> simp

theorem bind_ok_eq_map (first : Except ε α) (change : α → β) :
    (first >>= fun value => Except.ok (change value)) = first.map change := by
  cases first <;> rfl

/-- What comes second matters only for values of the first. -/
theorem bind_congr_of_ok {first : Except ε α} {next other : α → Except ε β}
    (same : ∀ value, first = .ok value → next value = other value) :
    (first >>= next) = (first >>= other) := by
  cases first with
  | error error => rfl
  | ok value => exact same value rfl

theorem map_eq_ok_iff {first : Except ε α} {change : α → β} {result : β} :
    first.map change = .ok result ↔ ∃ value, first = .ok value ∧ change value = result := by
  cases first <;> simp [Except.map]

theorem map_eq_error_iff {first : Except ε α} {change : α → β} {error : ε} :
    first.map change = .error error ↔ first = .error error := by
  cases first <;> simp [Except.map]

theorem mapError_eq_ok_iff {ε' : Type} {first : Except ε α} {change : ε → ε'} {result : α} :
    first.mapError change = .ok result ↔ first = .ok result := by
  cases first with
  | error reported =>
      constructor <;>
        · intro same
          cases same
  | ok value =>
      constructor <;>
        · intro same
          cases same
          rfl

theorem mapError_eq_error_iff {ε' : Type} {first : Except ε α} {change : ε → ε'} {error : ε'} :
    first.mapError change = .error error ↔
      ∃ reported, first = .error reported ∧ change reported = error := by
  cases first with
  | error reported =>
      constructor
      · intro same
        cases same
        exact ⟨reported, rfl, rfl⟩
      · rintro ⟨_, ⟨⟩, rfl⟩
        rfl
  | ok value =>
      constructor
      · intro same
        cases same
      · rintro ⟨_, same, _⟩
        cases same

end IcuMessage
