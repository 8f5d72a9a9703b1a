import IcuMessage.Proofs.Text.Blanks
import IcuMessage.Text.DecimalDigit
import IcuMessage.Text.Integer

/-!
# Integers that are written and read

What is written for an integer of 64 bits is read as that integer, the least
one included (`readInt64?_writeInt64`).
-/

namespace IcuMessage.Text

theorem isDigit_of_mem_writeNat
    {value : Nat}
    {character : Char}
    (member : character ∈ writeNat value) :
    character.isDigit = true :=
  Nat.isDigit_of_mem_toDigits (by decide) (by decide) member

theorem writeNat_ne_nil (value : Nat) : writeNat value ≠ [] :=
  Nat.toDigits_ne_nil

theorem int64OfInt?_toInt (value : Int64) : int64OfInt? value.toInt = some value := by
  rw [int64OfInt?, if_pos ⟨Int64.minValue_le_toInt value, Int64.toInt_le value⟩,
    Int64.ofInt_toInt]

theorem readInt64?_of_digits
    {digits : List Char}
    (filled : digits ≠ [])
    (digit : ∀ character ∈ digits, character.isDigit = true) :
    readInt64? digits = (readNat? digits).bind fun value => int64OfInt? value := by
  cases digits with
  | nil => exact absurd rfl filled
  | cons first rest =>
      have firstDigit := digit first List.mem_cons_self
      have noMinus : first ≠ '-' := by
        rintro rfl
        exact absurd firstDigit (by decide)
      have noPlus : first ≠ '+' := by
        rintro rfl
        exact absurd firstDigit (by decide)
      rw [readInt64?.eq_def]
      split <;> simp_all

theorem toInt_of_int64OfInt?
    {value : Int}
    {number : Int64}
    (fits : int64OfInt? value = some number) :
    number.toInt = value := by
  rw [int64OfInt?] at fits
  split at fits
  case isTrue bounds =>
    cases fits
    have least : Int64.minValue.toInt = -2 ^ 63 := by decide
    have greatest : Int64.maxValue.toInt = 2 ^ 63 - 1 := by decide
    exact Int64.toInt_ofInt_of_le (by omega) (by omega)
  case isFalse => cases fits

/-- Without a minus sign no negative integer is read. -/
theorem toInt_nonneg_of_readInt64?
    {text : List Char}
    {number : Int64}
    (noMinus : text.head? ≠ some '-')
    (read : readInt64? text = some number) :
    0 ≤ number.toInt := by
  have natural : ∃ digits,
      (readNat? digits).bind (fun value => int64OfInt? value) = some number := by
    rw [readInt64?.eq_def] at read
    split at read
    · exact absurd rfl noMinus
    · exact ⟨_, read⟩
    · exact ⟨_, read⟩
  rcases natural with
    ⟨digits, read⟩
  rcases Option.bind_eq_some_iff.mp read with
    ⟨value, _, fits⟩
  rw [toInt_of_int64OfInt? fits]
  exact Int.natCast_nonneg value

/-- A natural number reads back from its digits if it fits 64 bits. -/
theorem readInt64?_writeNat (value : Nat) :
    readInt64? (writeNat value) = int64OfInt? value := by
  rw [readInt64?_of_digits (writeNat_ne_nil value) fun _ member => isDigit_of_mem_writeNat member,
    readNat?_writeNat]
  rfl

/-- Every integer of 64 bits reads back from its text. -/
theorem readInt64?_writeInt64 (value : Int64) :
    readInt64? (writeInt64 value) = some value := by
  rw [writeInt64]
  split
  case isTrue negative =>
    have restored : -((value.toInt.natAbs : Nat) : Int) = value.toInt := by omega
    rw [readInt64?, readNat?_writeNat, Option.bind_some, restored, int64OfInt?_toInt]
  case isFalse positive =>
    have restored : ((value.toInt.natAbs : Nat) : Int) = value.toInt := by omega
    rw [readInt64?_writeNat, restored, int64OfInt?_toInt]

/-- An integer is written with digits, and a minus sign at most. -/
theorem mem_writeInt64
    {value : Int64}
    {character : Char}
    (member : character ∈ writeInt64 value) :
    character = '-' ∨ character.isDigit = true := by
  rw [writeInt64] at member
  split at member
  · rcases List.mem_cons.mp member with sign | digit
    · exact Or.inl sign
    · exact Or.inr (isDigit_of_mem_writeNat digit)
  · exact Or.inr (isDigit_of_mem_writeNat member)

theorem isBlank_of_isDigit
    {character : Char}
    (digit : character.isDigit = true) :
    isBlank character = false := by
  simp only [Char.isDigit, Bool.and_eq_true, decide_eq_true_eq, UInt32.le_iff_toNat_le] at digit
  have code : character.toNat = character.val.toNat := rfl
  have lower : 48 ≤ character.val.toNat := by simpa using digit.1
  have upper : character.val.toNat ≤ 57 := by simpa using digit.2
  rw [Bool.eq_false_iff]
  intro blank
  simp only [isBlank, Bool.or_eq_true, Bool.and_eq_true, decide_eq_true_eq, beq_iff_eq] at blank
  omega

theorem isBlank_of_mem_writeInt64
    {value : Int64}
    {character : Char}
    (member : character ∈ writeInt64 value) :
    isBlank character = false := by
  rcases mem_writeInt64 member with rfl | digit
  · decide
  · exact isBlank_of_isDigit digit

end IcuMessage.Text
