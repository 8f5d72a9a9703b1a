import IcuMessage.Event

/-!
# Traced computations

A traced computation reports events and ends in a value or an error.  The
events reported before an error are kept.  The outcome of a computation does
not depend on the events: `outcome` takes sequences of traced computations to
sequences of plain ones.
-/

namespace IcuMessage

/-- The events that a computation reports, and its outcome. -/
structure Traced (α : Type) where
  events : List Event
  outcome : Except Failure α

namespace Traced

variable {α β : Type}

/-- Go on with the value of a computation, if there is one. -/
def andThen (first : Traced α) (next : α → Traced β) : Traced β :=
  match first.outcome with
  | .error error => ⟨first.events, .error error⟩
  | .ok value =>
      let second := next value
      ⟨first.events ++ second.events, second.outcome⟩

instance : Monad Traced where
  pure value := ⟨[], .ok value⟩
  bind := andThen

instance : LawfulMonad Traced := LawfulMonad.mk' Traced
  (by
    intro α first
    obtain ⟨events, outcome⟩ := first
    cases outcome <;> simp [Functor.map, andThen])
  (by
    intro α β value next
    simp [bind, pure, andThen])
  (by
    intro α β γ first second third
    obtain ⟨events, outcome⟩ := first
    cases outcome with
    | error error => rfl
    | ok value =>
        simp only [bind, andThen]
        cases (second value).outcome <;> simp)

/-- A plain computation reports nothing. -/
def ofExcept (outcome : Except Failure α) : Traced α :=
  ⟨[], outcome⟩

instance : MonadLift (Except Failure) Traced := ⟨ofExcept⟩

/-- Report an event. -/
def report (event : Event) : Traced Unit :=
  ⟨[event], .ok ()⟩

@[simp]
theorem outcome_pure (value : α) : (pure value : Traced α).outcome = .ok value := rfl

@[simp]
theorem outcome_ofExcept (outcome : Except Failure α) :
    (ofExcept outcome).outcome = outcome := rfl

@[simp]
theorem outcome_liftM (outcome : Except Failure α) :
    (liftM outcome : Traced α).outcome = outcome := rfl

@[simp]
theorem outcome_report (event : Event) : (report event).outcome = .ok () := rfl

@[simp]
theorem outcome_bind (first : Traced α) (next : α → Traced β) :
    (first >>= next).outcome = first.outcome >>= fun value => (next value).outcome := by
  obtain ⟨events, outcome⟩ := first
  cases outcome <;> rfl

end Traced

end IcuMessage
