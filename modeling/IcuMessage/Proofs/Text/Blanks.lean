import IcuMessage.Proofs.Text.Runs
import IcuMessage.Text.Blank
import IcuMessage.Text.DecimalDigit
import IcuMessage.Text.WordCharacter
import Mathlib.Data.List.DropRight

/-!
# Blanks around text

Trimming takes the blanks from both ends of a text.  A text that starts and
ends with other characters stays as it is, whatever stands in its middle.
Word characters and digits are never blank.
-/

namespace IcuMessage.Text

variable {character : Char} {text : List Char}

/-- The code points of the blank characters. -/
def blankCodes : List Nat :=
  [0x09, 0x0A, 0x0B, 0x0C, 0x0D, 0x20, 0x85, 0xA0, 0x1680, 0x2000, 0x2001, 0x2002, 0x2003,
    0x2004, 0x2005, 0x2006, 0x2007, 0x2008, 0x2009, 0x200A, 0x2028, 0x2029, 0x202F, 0x205F,
    0x3000]

theorem toNat_mem_blankCodes
    (blank : isBlank character = true) :
    character.toNat ∈ blankCodes := by
  simp only [isBlank, Bool.or_eq_true, Bool.and_eq_true, decide_eq_true_eq, beq_iff_eq] at blank
  simp only [blankCodes, List.mem_cons, List.not_mem_nil, or_false]
  omega

theorem isWordCharacter_of_isBlank
    (blank : isBlank character = true) :
    isWordCharacter character = false := by
  have none : ∀ code ∈ blankCodes, isWordCharacter (Char.ofNat code) = false := by
    decide +kernel
  have word := none character.toNat (toNat_mem_blankCodes blank)
  rwa [Char.ofNat_toNat] at word

theorem isDecimalDigit_of_isBlank
    (blank : isBlank character = true) :
    isDecimalDigit character = false := by
  have none : ∀ code ∈ blankCodes, isDecimalDigit (Char.ofNat code) = false := by
    decide +kernel
  have digit := none character.toNat (toNat_mem_blankCodes blank)
  rwa [Char.ofNat_toNat] at digit

theorem isBlank_of_isWordCharacter
    (word : isWordCharacter character = true) :
    isBlank character = false := by
  rw [Bool.eq_false_iff]
  intro blank
  rw [isWordCharacter_of_isBlank blank] at word
  cases word

/-- A text has no blank exactly if no character of it is one. -/
theorem hasBlank_eq_false_iff :
    hasBlank text = false ↔ ∀ character ∈ text, isBlank character = false := by
  simp [hasBlank]

@[simp]
theorem trimStart_nil : trimStart [] = [] := rfl

/-- What is trimmed from the front of a text is blank. -/
theorem exists_blanks_append_trimStart (text : List Char) :
    ∃ blanks, (∀ character ∈ blanks, isBlank character = true) ∧
      text = blanks ++ trimStart text :=
  ⟨text.takeWhile isBlank, fun _ member => List.mem_takeWhile_imp member,
    List.takeWhile_append_dropWhile.symm⟩

theorem trimStart_blank
    (blank : isBlank character = true)
    (rest : List Char) :
    trimStart (character :: rest) = trimStart rest := by
  rw [trimStart, List.dropWhile_cons_of_pos blank]
  rfl

theorem trimStart_other
    (other : isBlank character = false)
    (rest : List Char) :
    trimStart (character :: rest) = character :: rest := by
  rw [trimStart, List.dropWhile_cons_of_neg (by simp [other])]

/-- What begins with a character that is not blank is not trimmed in front. -/
theorem trimStart_append
    {run : List Char}
    (filled : run ≠ [])
    (other : ∀ character ∈ run, isBlank character = false)
    (rest : List Char) :
    trimStart (run ++ rest) = run ++ rest := by
  cases run with
  | nil => exact absurd rfl filled
  | cons first more => exact trimStart_other (other first List.mem_cons_self) (more ++ rest)

theorem trim_blank
    (blank : isBlank character = true)
    (rest : List Char) :
    trim (character :: rest) = trim rest := by
  rw [trim, trimStart_blank blank]
  rfl

theorem trimEnd_cons
    (other : isBlank character = false)
    (rest : List Char) :
    trimEnd (character :: rest) = character :: trimEnd rest := by
  rw [trimEnd, trimEnd, List.reverse_cons, List.dropWhile_append]
  split
  case isTrue empty =>
    rw [List.isEmpty_iff.mp empty, List.dropWhile_cons_of_neg (by simp [other])]
    rfl
  case isFalse => simp

/-- Only the end of a text counts when another character is put in front of it. -/
theorem trim_cons
    (other : isBlank character = false)
    (trimmed : trim text = text) :
    trim (character :: text) = character :: text := by
  have settled : trimEnd text = text := by
    have again : trimEnd (trimEnd (trimStart text)) = trimEnd (trimStart text) := by
      rw [trimEnd, trimEnd, List.reverse_reverse, List.dropWhile_idempotent]
    rwa [show trimEnd (trimStart text) = text from trimmed] at again
  rw [trim, trimStart_other other, trimEnd_cons other, settled]

theorem trimEnd_eq_self
    (other : ∀ character ∈ text, isBlank character = false) :
    trimEnd text = text := by
  induction text with
  | nil => rfl
  | cons first rest ih =>
      rw [trimEnd_cons (other first List.mem_cons_self),
        ih fun character member => other character (.tail _ member)]

/-- Text without blanks is not trimmed. -/
theorem trim_eq_self
    (other : ∀ character ∈ text, isBlank character = false) :
    trim text = text := by
  cases text with
  | nil => rfl
  | cons first rest =>
      rw [trim, trimStart_other (other first List.mem_cons_self), trimEnd_eq_self other]

theorem trim_append_blank
    (blank : isBlank character = true)
    (other : ∀ character ∈ text, isBlank character = false) :
    trim (text ++ [character]) = text := by
  have ended : trimEnd (text ++ [character]) = text := by
    rw [trimEnd, List.reverse_append, List.reverse_singleton, List.singleton_append,
      List.dropWhile_cons_of_pos blank]
    exact trimEnd_eq_self other
  cases text with
  | nil =>
      rw [List.nil_append, trim_blank blank]
      rfl
  | cons first rest =>
      rw [trim, List.cons_append, trimStart_other (other first List.mem_cons_self),
        ← List.cons_append, ended]

end IcuMessage.Text
