import IcuMessage.Message.Basic
import IcuMessage.Locale.Tag
import IcuMessage.Plural.Operands

/-!
# Plural conditions

The conditions by which languages sort numbers into plural categories.  A
condition is a disjunction of conjunctions of relations, and a relation compares
an operand, or its rest modulo a number, with ranges of natural numbers.
-/

namespace IcuMessage

/-- The operands of relations, by their customary letters. -/
inductive PluralOperand where
  /-- The number itself. -/
  | n
  /-- Its whole part. -/
  | i
  /-- The number of its fraction digits. -/
  | v
  /-- Its fraction digits. -/
  | f
  /-- Its fraction digits without zeros at the end. -/
  | t
  /-- The exponent of a compact notation, which is not in use. -/
  | e
deriving DecidableEq, Repr

/-- The value of an operand; a number with a fraction has none. -/
def PluralOperands.value? (operands : PluralOperands) : PluralOperand → Option Nat
  | .n => if operands.fraction = 0 then some operands.whole else none
  | .i => some operands.whole
  | .v => some operands.fractionCount
  | .f => some operands.fraction
  | .t => some operands.significantFraction
  | .e => some 0

/-- A comparison of an operand, or of its rest, with ranges. -/
structure PluralRelation where
  operand : PluralOperand
  modulus : Option Nat
  negated : Bool
  ranges : List (Nat × Nat)
deriving DecidableEq, Repr

/-- The relation holds of a number.  An operand without a value is in no range. -/
def PluralRelation.holds (relation : PluralRelation) (operands : PluralOperands) : Bool :=
  let inRange := match operands.value? relation.operand with
    | none => false
    | some value =>
        let rest := (relation.modulus.map (value % ·)).getD value
        relation.ranges.any fun range => range.1 ≤ rest && rest ≤ range.2
  inRange != relation.negated

/-- Alternatives, each of them a list of relations that hold together. -/
abbrev PluralCondition := List (List PluralRelation)

/-- Some alternative of the condition holds of a number. -/
def PluralCondition.holds (condition : PluralCondition) (operands : PluralOperands) : Bool :=
  condition.any fun relations => relations.all fun relation => relation.holds operands

/-- Categories with the conditions for them, in the order in which they are tried. -/
abbrev PluralRules := List (PluralCategory × PluralCondition)

namespace PluralRules

/-- The operand is in one of the ranges. -/
def is (operand : PluralOperand) (ranges : List (Nat × Nat)) : PluralRelation :=
  ⟨operand, none, false, ranges⟩

/-- The operand is in none of the ranges. -/
def isNot (operand : PluralOperand) (ranges : List (Nat × Nat)) : PluralRelation :=
  ⟨operand, none, true, ranges⟩

/-- The rest of the operand is in one of the ranges. -/
def restIs (operand : PluralOperand) (modulus : Nat) (ranges : List (Nat × Nat)) :
    PluralRelation :=
  ⟨operand, some modulus, false, ranges⟩

/-- The rest of the operand is in none of the ranges. -/
def restIsNot (operand : PluralOperand) (modulus : Nat) (ranges : List (Nat × Nat)) :
    PluralRelation :=
  ⟨operand, some modulus, true, ranges⟩

/-- One, without fraction digits. -/
def singleUnit : PluralCondition :=
  [[is .i [(1, 1)], is .v [(0, 0)]]]

/-- A whole part below two. -/
def belowTwo : PluralCondition :=
  [[is .i [(0, 1)]]]

/-- A whole number of millions, or a greater unit of a compact notation. -/
def wholeMillions : PluralCondition :=
  [[is .e [(0, 0)], isNot .i [(0, 0)], restIs .i 1000000 [(0, 0)], is .v [(0, 0)]],
    [isNot .e [(0, 5)]]]

end PluralRules

end IcuMessage
