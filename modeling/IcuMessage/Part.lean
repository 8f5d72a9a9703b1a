import IcuMessage.Value

/-!
# Parts

A formatted message is a list of parts: literal text, and the rich values that
pass through untouched.  Parts are gathered from left to right.  Gathering
joins literals that meet and leaves out the empty ones, so that the parts of a
message are always in normal form.
-/

namespace IcuMessage

/-- A fragment of a formatted message. -/
inductive Part where
  /-- Formatted text. -/
  | literal (text : String)
  /-- A value that passes through untouched. -/
  | argument (value : Value)
deriving Repr, Inhabited

/-- The plain text of a part. -/
def Part.write : Part → String
  | .literal text => text
  | .argument value => value.write

/-- The plain text of a list of parts. -/
def writeParts (parts : List Part) : String :=
  String.join (parts.map Part.write)

/-- The parts gathered so far. -/
structure Gathered where
  /-- The parts in reverse order. -/
  latestFirst : List Part := []
deriving Repr, Inhabited

namespace Gathered

/-- Nothing gathered so far. -/
def empty : Gathered := {}

/-- Gather text.  It joins a literal that it meets, and empty text is left out. -/
def addText (gathered : Gathered) (text : String) : Gathered :=
  if text = "" then gathered
  else match gathered.latestFirst with
    | .literal last :: earlier => ⟨.literal (last ++ text) :: earlier⟩
    | parts => ⟨.literal text :: parts⟩

/-- Gather a part. -/
def add (gathered : Gathered) : Part → Gathered
  | .literal text => gathered.addText text
  | .argument value => ⟨.argument value :: gathered.latestFirst⟩

/-- Gather parts from left to right. -/
def addAll (gathered : Gathered) (parts : List Part) : Gathered :=
  parts.foldl add gathered

/-- The parts from left to right. -/
def toList (gathered : Gathered) : List Part :=
  gathered.latestFirst.reverse

@[simp]
theorem toList_empty : empty.toList = [] := rfl

@[simp]
theorem addText_empty (gathered : Gathered) : gathered.addText "" = gathered := by
  simp [addText]

@[simp]
theorem addAll_nil (gathered : Gathered) : gathered.addAll [] = gathered := rfl

@[simp]
theorem addAll_cons (gathered : Gathered) (part : Part) (parts : List Part) :
    gathered.addAll (part :: parts) = (gathered.add part).addAll parts := rfl

@[simp]
theorem addAll_append (gathered : Gathered) (left right : List Part) :
    gathered.addAll (left ++ right) = (gathered.addAll left).addAll right :=
  List.foldl_append

end Gathered

end IcuMessage
