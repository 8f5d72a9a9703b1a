import IcuMessage.Part

/-!
# Coalescing of parts

`coalesce` joins the literals that meet in a list of parts and leaves out the
empty ones.  It is written from the right, whereas `Gathered` collects parts
from the left and in reverse.  The main statements are that gathering from
nothing coalesces (`toList_addAll_empty`), and that gathering does not see
whether the parts it is given were coalesced before (`addAll_coalesce`).
-/

namespace IcuMessage

/-- Put a part in front of parts.  Text joins a literal that it meets, and
empty text is left out. -/
def Part.before : Part → List Part → List Part
  | .argument value, parts => .argument value :: parts
  | .literal text, .literal later :: rest => .literal (text ++ later) :: rest
  | .literal text, parts => if text = "" then parts else .literal text :: parts

/-- Join the literals that meet, and leave out the empty ones. -/
def coalesce (parts : List Part) : List Part :=
  parts.foldr Part.before []

@[simp]
theorem coalesce_nil : coalesce [] = [] := rfl

@[simp]
theorem coalesce_cons (part : Part) (parts : List Part) :
    coalesce (part :: parts) = part.before (coalesce parts) := rfl

/-- No literal starts the parts. -/
def StartsApart : List Part → Prop
  | .literal _ :: _ => False
  | _ => True

/-- No literal is empty, and no two literals meet. -/
def Joined : List Part → Prop
  | [] => True
  | .argument _ :: rest => Joined rest
  | .literal text :: rest => text ≠ "" ∧ StartsApart rest ∧ Joined rest

/-- A part that is set before joined parts is joined to them. -/
theorem Part.joined_before (part : Part) {parts : List Part} (joined : Joined parts) :
    Joined (part.before parts) := by
  cases part with
  | argument value => exact joined
  | literal text =>
      rcases parts with _ | ⟨first, rest⟩
      · by_cases empty : text = ""
        · simp [Part.before, empty, Joined]
        · simp [Part.before, empty, Joined, StartsApart]
      · cases first with
        | literal later =>
            rcases joined with
              ⟨filled, apart, tail⟩
            exact ⟨by simp [filled], apart, tail⟩
        | argument value =>
            by_cases empty : text = ""
            · simpa [Part.before, empty] using joined
            · simpa [Part.before, empty, Joined, StartsApart] using joined

/-- Coalesced parts are joined. -/
theorem joined_coalesce (parts : List Part) : Joined (coalesce parts) := by
  induction parts with
  | nil => trivial
  | cons part rest ih => exact part.joined_before ih

@[simp]
theorem Part.before_empty (parts : List Part) :
    Part.before (.literal "") parts = parts := by
  rcases parts with _ | ⟨_ | _, rest⟩ <;> simp [Part.before]

/-- Joined parts are left as they are. -/
theorem coalesce_of_joined {parts : List Part} (joined : Joined parts) :
    coalesce parts = parts := by
  induction parts with
  | nil => rfl
  | cons part rest ih =>
      cases part with
      | argument value => simp [ih joined, Part.before]
      | literal text =>
          rcases joined with
            ⟨filled, apart, tail⟩
          rw [coalesce_cons, ih tail]
          rcases rest with _ | ⟨_ | _, _⟩
          · simp [Part.before, filled]
          · exact apart.elim
          · simp [Part.before, filled]

@[simp]
theorem coalesce_coalesce (parts : List Part) :
    coalesce (coalesce parts) = coalesce parts :=
  coalesce_of_joined (joined_coalesce parts)

namespace Gathered

/-- Two texts that are added in a row are one text. -/
theorem addText_addText (gathered : Gathered) (first second : String) :
    (gathered.addText first).addText second = gathered.addText (first ++ second) := by
  by_cases noFirst : first = ""
  · simp [noFirst]
  by_cases noSecond : second = ""
  · simp [noSecond]
  rcases gathered with
    ⟨parts⟩
  rcases parts with _ | ⟨_ | _, earlier⟩ <;>
    simp [addText, noFirst, noSecond, String.append_assoc]

/-- It makes no difference whether a part is joined first or added first. -/
theorem addAll_before (gathered : Gathered) (part : Part) (parts : List Part) :
    gathered.addAll (part.before parts) = (gathered.add part).addAll parts := by
  cases part with
  | argument value => rfl
  | literal text =>
      rcases parts with _ | ⟨first, rest⟩
      · by_cases empty : text = "" <;> simp [Part.before, empty, add]
      · cases first with
        | literal later => simp [Part.before, add, addText_addText]
        | argument value => by_cases empty : text = "" <;> simp [Part.before, empty, add]

/-- Gathering does not see whether parts were coalesced before. -/
@[simp]
theorem addAll_coalesce (gathered : Gathered) (parts : List Part) :
    gathered.addAll (coalesce parts) = gathered.addAll parts := by
  induction parts generalizing gathered with
  | nil => rfl
  | cons part rest ih => rw [coalesce_cons, addAll_before, ih, addAll_cons]

/-- Parts in normal form are gathered as they are behind parts that end apart. -/
theorem addAll_of_joined {gathered : Gathered} {parts : List Part}
    (apart : StartsApart parts ∨ StartsApart gathered.latestFirst)
    (joined : Joined parts) :
    (gathered.addAll parts).latestFirst = parts.reverse ++ gathered.latestFirst := by
  induction parts generalizing gathered with
  | nil => rfl
  | cons part rest ih =>
      rw [addAll_cons]
      cases part with
      | argument value =>
          have added : StartsApart (gathered.add (.argument value)).latestFirst := trivial
          rw [ih (Or.inr added) joined]
          simp [add]
      | literal text =>
          rcases joined with
            ⟨filled, restApart, restJoined⟩
          have last : StartsApart gathered.latestFirst := apart.resolve_left id
          have added : (gathered.add (.literal text)).latestFirst =
              .literal text :: gathered.latestFirst := by
            rcases gathered with
              ⟨parts⟩
            rcases parts with _ | ⟨_ | _, earlier⟩
            · simp [add, addText, filled]
            · exact last.elim
            · simp [add, addText, filled]
          rw [ih (Or.inl restApart) restJoined, added]
          simp

@[simp]
theorem toList_addAll_empty (parts : List Part) :
    (empty.addAll parts).toList = coalesce parts := by
  have nothing : StartsApart empty.latestFirst := trivial
  rw [← addAll_coalesce, toList, addAll_of_joined (Or.inr nothing) (joined_coalesce parts)]
  simp [empty]

end Gathered

/-- Parts may be coalesced piece by piece. -/
theorem coalesce_append (front back : List Part) :
    coalesce (front ++ back) = coalesce (coalesce front ++ coalesce back) := by
  rw [← Gathered.toList_addAll_empty, ← Gathered.toList_addAll_empty]
  simp only [Gathered.addAll_append, Gathered.addAll_coalesce]

end IcuMessage
