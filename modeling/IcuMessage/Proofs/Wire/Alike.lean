import IcuMessage.Wire.Json
import Mathlib.Data.List.Forall2
import Mathlib.Data.List.Nodup

/-!
# JSON values up to the order of entries

The entries of an object have no order: whoever passes a value on may put them in
another one.  `Json.Alike` relates the values that differ in this only, and the
entries of alike objects are found under the same keys.

Values nest through the items of arrays and the entries of objects.
`Json.induct` packages the nested recursion once.
-/

namespace IcuMessage.Json

/-- A property passes from the values inside a value to the value. -/
structure Inherits (motive : Json → Prop) : Prop where
  null : motive .null
  boolean : ∀ value, motive (.boolean value)
  integer : ∀ value, motive (.integer value)
  fraction : ∀ mantissa exponent, motive (.fraction mantissa exponent)
  text : ∀ value, motive (.text value)
  array : ∀ items, (∀ item ∈ items, motive item) → motive (.array items)
  object : ∀ entries, (∀ entry ∈ entries, motive entry.2) → motive (.object entries)

mutual

private theorem Inherits.value
    {motive : Json → Prop} (inherits : Inherits motive) :
    (value : Json) → motive value
  | .null => inherits.null
  | .boolean value => inherits.boolean value
  | .integer value => inherits.integer value
  | .fraction mantissa exponent => inherits.fraction mantissa exponent
  | .text value => inherits.text value
  | .array items => inherits.array items (inherits.items items)
  | .object entries => inherits.object entries (inherits.entries entries)

private theorem Inherits.items
    {motive : Json → Prop} (inherits : Inherits motive) :
    (items : List Json) → ∀ item ∈ items, motive item
  | [] => fun _ member => nomatch member
  | first :: rest => fun item member =>
      match List.mem_cons.mp member with
      | .inl same => same ▸ inherits.value first
      | .inr later => inherits.items rest item later

private theorem Inherits.entries
    {motive : Json → Prop} (inherits : Inherits motive) :
    (entries : List (String × Json)) → ∀ entry ∈ entries, motive entry.2
  | [] => fun _ member => nomatch member
  | (_, first) :: rest => fun entry member =>
      match List.mem_cons.mp member with
      | .inl same => same ▸ inherits.value first
      | .inr later => inherits.entries rest entry later

end

/-- Induction on a value, with the values inside it. -/
@[elab_as_elim]
theorem induct
    {motive : Json → Prop}
    (null : motive .null)
    (boolean : ∀ value, motive (.boolean value))
    (integer : ∀ value, motive (.integer value))
    (fraction : ∀ mantissa exponent, motive (.fraction mantissa exponent))
    (text : ∀ value, motive (.text value))
    (array : ∀ items, (∀ item ∈ items, motive item) → motive (.array items))
    (object : ∀ entries, (∀ entry ∈ entries, motive entry.2) → motive (.object entries))
    (value : Json) :
    motive value :=
  Inherits.value ⟨null, boolean, integer, fraction, text, array, object⟩ value

/-- One value is the other, but for the order of the entries of objects. -/
inductive Alike : Json → Json → Prop where
  | same (value : Json) : Alike value value
  | array {items others : List Json}
      (each : List.Forall₂ Alike items others) :
      Alike (.array items) (.array others)
  | object {entries moved others : List (String × Json)}
      (reordered : entries.Perm moved)
      (keys : moved.map Prod.fst = others.map Prod.fst)
      (values : List.Forall₂ Alike (moved.map Prod.snd) (others.map Prod.snd)) :
      Alike (.object entries) (.object others)

/-- One entry has the key of the other and a value like the other's. -/
def EntryAlike (entry other : String × Json) : Prop :=
  entry.1 = other.1 ∧ Alike entry.2 other.2

/-- The entries are the others in any order. -/
def EntriesAlike (entries others : List (String × Json)) : Prop :=
  ∃ moved, entries.Perm moved ∧ List.Forall₂ EntryAlike moved others

namespace Alike

variable {json : Json}

theorem of_text
    {text : String}
    (alike : Alike json (.text text)) :
    json = .text text := by
  cases alike
  rfl

theorem of_integer
    {value : Int}
    (alike : Alike json (.integer value)) :
    json = .integer value := by
  cases alike
  rfl

theorem of_boolean
    {value : Bool}
    (alike : Alike json (.boolean value)) :
    json = .boolean value := by
  cases alike
  rfl

theorem of_array
    {others : List Json}
    (alike : Alike json (.array others)) :
    ∃ items, json = .array items ∧ List.Forall₂ Alike items others := by
  cases alike with
  | same => exact ⟨others, rfl, List.forall₂_same.mpr fun item _ => .same item⟩
  | array each => exact ⟨_, rfl, each⟩

theorem entries_of_values
    {moved others : List (String × Json)}
    (keys : moved.map Prod.fst = others.map Prod.fst)
    (values : List.Forall₂ Alike (moved.map Prod.snd) (others.map Prod.snd)) :
    List.Forall₂ EntryAlike moved others := by
  induction others generalizing moved with
  | nil =>
      rw [List.map_eq_nil_iff.mp keys]
      exact .nil
  | cons other others ih =>
      cases moved with
      | nil => cases keys
      | cons entry moved =>
          rcases List.cons.inj keys with
            ⟨key, keys⟩
          cases values with
          | cons value values => exact .cons ⟨key, value⟩ (ih keys values)

theorem of_object
    {others : List (String × Json)}
    (alike : Alike json (.object others)) :
    ∃ entries, json = .object entries ∧ EntriesAlike entries others := by
  cases alike with
  | same =>
      refine ⟨others, rfl, others, .refl others, ?_⟩
      exact List.forall₂_same.mpr fun entry _ => ⟨rfl, .same entry.2⟩
  | object reordered keys values =>
      exact ⟨_, rfl, _, reordered, entries_of_values keys values⟩

end Alike

/-- What has a key of its own among entries is found under it. -/
theorem lookup_of_mem
    {entries : List (String × Json)}
    {key : String}
    {value : Json}
    (distinct : (entries.map Prod.fst).Nodup)
    (member : (key, value) ∈ entries) :
    entries.lookup key = some value := by
  induction entries with
  | nil => cases member
  | cons entry rest ih =>
      rw [List.map_cons, List.nodup_cons] at distinct
      rcases List.mem_cons.mp member with rfl | later
      · exact List.lookup_cons_self
      · have other : (key == entry.1) = false := by
          rw [beq_eq_false_iff_ne]
          rintro rfl
          exact distinct.1 (List.mem_map.mpr ⟨_, later, rfl⟩)
        rw [List.lookup_cons, other]
        exact ih distinct.2 later

namespace EntriesAlike

variable {entries others : List (String × Json)}

/-- Objects that are alike have the same keys. -/
theorem keys_perm
    (alike : EntriesAlike entries others) :
    (entries.map Prod.fst).Perm (others.map Prod.fst) := by
  rcases alike with
    ⟨moved, reordered, each⟩
  have keys : moved.map Prod.fst = others.map Prod.fst := by
    rw [← List.forall₂_eq_eq_eq, List.forall₂_map_left_iff, List.forall₂_map_right_iff]
    exact each.imp fun _ _ same => same.1
  rw [← keys]
  exact reordered.map Prod.fst

/-- Objects that are alike hold like values under one key. -/
theorem lookup_some
    {key : String}
    {value : Json}
    (alike : EntriesAlike entries others)
    (distinct : (others.map Prod.fst).Nodup)
    (member : (key, value) ∈ others) :
    ∃ found, entries.lookup key = some found ∧ Alike found value := by
  have distinctHere := alike.keys_perm.nodup_iff.mpr distinct
  rcases alike with
    ⟨moved, reordered, each⟩
  rcases List.forall₂_iff_get.mp each with
    ⟨length, each⟩
  rcases List.mem_iff_get.mp member with
    ⟨place, there⟩
  have same := each place (by omega) place.isLt
  rw [there] at same
  rcases same with
    ⟨rfl, valueAlike⟩
  refine ⟨_, lookup_of_mem distinctHere ?_, valueAlike⟩
  exact reordered.mem_iff.mpr (List.get_mem ..)

theorem lookup_none
    {key : String}
    (alike : EntriesAlike entries others)
    (absent : key ∉ others.map Prod.fst) :
    entries.lookup key = none := by
  rw [List.lookup_eq_none_iff]
  intro entry member
  rw [bne_iff_ne]
  rintro rfl
  exact absent (alike.keys_perm.mem_iff.mp (List.mem_map_of_mem member))

end EntriesAlike

end IcuMessage.Json
