import IcuMessage.Table

/-!
# Messages

A message is a list of nodes: literal text, placeholders for named values, the
branching `plural` and `select` arguments, the number sign of a plural, and
tags around a part of the message.

The branches of an argument form a table in the sense of `IcuMessage.Table`:
one branch a key, in ascending order of the keys.  `Message.Ordered` states
this at every depth of a message.
-/

namespace IcuMessage

/-- The primitive formatters that a placeholder can ask for. -/
inductive Category where
  | number
  | date
  | time
deriving DecidableEq, Repr

namespace Category

/-- The word for a category in patterns, trees and error texts. -/
def word : Category → String
  | .number => "number"
  | .date => "date"
  | .time => "time"

/-- The category that a word stands for. -/
def ofWord? (word : String) : Option Category :=
  [Category.number, .date, .time].find? fun category => category.word == word

@[simp]
theorem ofWord?_word (category : Category) : ofWord? category.word = some category := by
  cases category <;> decide

end Category

/-- How a placeholder asks for its value to be written. -/
inductive Style where
  /-- A style that the caller or the library has a name for. -/
  | named (name : String)
  /-- A style spelled out in place, without the two colons that introduce it. -/
  | skeleton (text : String)
deriving DecidableEq, Repr

/-- The plural categories of the Unicode locale data, in their usual order. -/
inductive PluralCategory where
  | zero
  | one
  | two
  | few
  | many
  | other
deriving DecidableEq, Repr

namespace PluralCategory

/-- The categories in their usual order. -/
def all : List PluralCategory :=
  [.zero, .one, .two, .few, .many, .other]

/-- The keyword of a category. -/
def word : PluralCategory → String
  | .zero => "zero"
  | .one => "one"
  | .two => "two"
  | .few => "few"
  | .many => "many"
  | .other => "other"

/-- The category that a keyword stands for. -/
def ofWord? (word : String) : Option PluralCategory :=
  all.find? fun category => category.word == word

/-- The place of a category in the usual order. -/
def rank : PluralCategory → Nat
  | .zero => 0
  | .one => 1
  | .two => 2
  | .few => 3
  | .many => 4
  | .other => 5

@[simp]
theorem ofWord?_word (category : PluralCategory) :
    ofWord? category.word = some category := by
  cases category <;> decide

/-- Different categories have different ranks. -/
theorem rank_injective {left right : PluralCategory}
    (same : left.rank = right.rank) : left = right := by
  cases left <;> cases right <;> first | rfl | simp [rank] at same

end PluralCategory

/-- The rules by which a plural argument sorts numbers into categories. -/
inductive PluralRule where
  | cardinal
  | ordinal
deriving DecidableEq, Repr

/-- The key of a plural branch: one integer, or a whole category. -/
inductive PluralKey where
  | exact (value : Int64)
  | category (kind : PluralCategory)
deriving DecidableEq, Repr

namespace PluralKey

/-- The branch that stands in for every missing one. -/
def other : PluralKey := .category .other

/-- Exact keys by their number, before the categories in their usual order. -/
def Precedes : PluralKey → PluralKey → Prop
  | .exact left, .exact right => left.toInt < right.toInt
  | .exact _, .category _ => True
  | .category _, .exact _ => False
  | .category left, .category right => left.rank < right.rank

instance : LT PluralKey := ⟨Precedes⟩

instance : DecidableLT PluralKey := fun left right =>
  match left, right with
  | .exact left, .exact right => inferInstanceAs (Decidable (left.toInt < right.toInt))
  | .exact _, .category _ => isTrue trivial
  | .category _, .exact _ => isFalse id
  | .category left, .category right => inferInstanceAs (Decidable (left.rank < right.rank))

@[simp]
theorem exact_lt_exact {left right : Int64} :
    (exact left < exact right) ↔ left.toInt < right.toInt := Iff.rfl

@[simp]
theorem exact_lt_category {value : Int64} {right : PluralCategory} :
    (exact value < category right) ↔ True := Iff.rfl

@[simp]
theorem category_lt_exact {left : PluralCategory} {value : Int64} :
    (category left < exact value) ↔ False := Iff.rfl

@[simp]
theorem category_lt_category {left right : PluralCategory} :
    (category left < category right) ↔ left.rank < right.rank := Iff.rfl

instance : Trans (α := PluralKey) (· < ·) (· < ·) (· < ·) where
  trans {first second third} before after := by
    cases first <;> cases second <;> cases third <;> simp_all <;> omega

instance : Std.Trichotomous (α := PluralKey) (· < ·) where
  trichotomous left right notLess notGreater := by
    cases left <;> cases right <;> simp_all
    · exact Int64.toInt_inj.mp (by omega)
    · exact PluralCategory.rank_injective (by omega)

end PluralKey

/-- The key of the select branch that stands in for every missing one. -/
def otherKey : String := "other"

/-- One element of a message. -/
inductive Node where
  /-- Text that is written as it stands. -/
  | literal (text : String)
  /-- A value that is written in its own way. -/
  | argument (name : String)
  /-- A value that a primitive formatter writes. -/
  | formatted (category : Category) (name : String) (style : Option Style)
  /-- A branch chosen by a number less an offset. -/
  | plural (name : String) (rule : PluralRule) (offset : Int64)
      (branches : List (PluralKey × List Node))
  /-- A branch chosen by a text. -/
  | select (name : String) (branches : List (String × List Node))
  /-- The number, less its offset, of the nearest plural around. -/
  | pound
  /-- A part of the message between two tags. -/
  | tag (name : String) (children : List Node)
deriving Repr

/-- A sequence of nodes. -/
abbrev Message := List Node

mutual

/-- The branches of a node are ordered at every depth. -/
def Node.Ordered : Node → Prop
  | .literal _ | .argument _ | .formatted _ _ _ | .pound => True
  | .plural _ _ _ branches => Table.Ascending branches ∧ pluralBranchesOrdered branches
  | .select _ branches => Table.Ascending branches ∧ selectBranchesOrdered branches
  | .tag _ children => Message.Ordered children

/-- The branches of every node of a message are ordered at every depth. -/
def Message.Ordered : Message → Prop
  | [] => True
  | node :: rest => node.Ordered ∧ Message.Ordered rest

/-- The messages of plural branches are ordered. -/
def pluralBranchesOrdered : List (PluralKey × List Node) → Prop
  | [] => True
  | (_, body) :: rest => Message.Ordered body ∧ pluralBranchesOrdered rest

/-- The messages of select branches are ordered. -/
def selectBranchesOrdered : List (String × List Node) → Prop
  | [] => True
  | (_, body) :: rest => Message.Ordered body ∧ selectBranchesOrdered rest

end

end IcuMessage
