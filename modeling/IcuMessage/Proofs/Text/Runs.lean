import Mathlib.Data.List.TakeDrop
import Mathlib.Data.List.TakeWhile

/-!
# Runs of characters

A reader takes the longest run of characters of one kind from the beginning of
a text.  A run ends where the text does, or at the first character of another
kind.
-/

namespace IcuMessage.Text

variable {kind : Char → Bool} {run text rest : List Char}

/-- A run and what follows it make up the text. -/
theorem span_spec (taken : text.span kind = (run, rest)) :
    text = run ++ rest ∧ ∀ character ∈ run, kind character = true := by
  rw [List.span_eq_takeWhile_dropWhile] at taken
  rcases Prod.mk.inj taken with
    ⟨rfl, rfl⟩
  exact ⟨List.takeWhile_append_dropWhile.symm, fun _ member => List.mem_takeWhile_imp member⟩

theorem span_append_cons
    {next : Char}
    (all : ∀ character ∈ run, kind character = true)
    (stop : kind next = false) :
    (run ++ next :: rest).span kind = (run, next :: rest) := by
  rw [List.span_eq_takeWhile_dropWhile, List.takeWhile_append_of_pos all,
    List.dropWhile_append_of_pos all]
  simp [stop]

theorem span_eq_self (all : ∀ character ∈ run, kind character = true) :
    run.span kind = (run, []) := by
  rw [List.span_eq_takeWhile_dropWhile, List.takeWhile_eq_self_iff.mpr all,
    List.dropWhile_eq_nil_iff.mpr all]

end IcuMessage.Text
