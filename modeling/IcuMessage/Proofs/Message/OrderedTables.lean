import IcuMessage.Message.Basic
import Mathlib.Data.List.Dedup
import Mathlib.Data.List.Induction
import Mathlib.Data.List.Nodup

/-!
# Tables in order

A table that ascends is what its own entries build, in whatever order they come,
and no two of its keys are equal.  The branches of ordered messages are such
tables.
-/

namespace IcuMessage

namespace Table

variable {κ β : Type} [LT κ]

/-- Inserting a new key adds one entry and keeps the others. -/
theorem insert_perm
    [DecidableLT κ] [DecidableEq κ]
    {key : κ}
    {table : List (κ × β)}
    (fresh : key ∉ table.map Prod.fst)
    (value : β) :
    (insert key value table).Perm ((key, value) :: table) := by
  induction table with
  | nil => exact .refl _
  | cons entry rest ih =>
      rcases entry with
        ⟨head, bound⟩
      rw [List.map_cons, List.mem_cons, not_or] at fresh
      rw [insert, if_neg fresh.1]
      split
      case isTrue => exact .refl _
      case isFalse => exact ((ih fresh.2).cons _).trans (.swap ..)

/-- A table has the entries that it is built from, if their keys are different. -/
theorem ofList_perm
    [DecidableLT κ] [DecidableEq κ]
    {entries : List (κ × β)}
    (distinct : (entries.map Prod.fst).Nodup) :
    (ofList entries).Perm entries := by
  have onto : ∀ table : List (κ × β), ((entries ++ table).map Prod.fst).Nodup →
      (entries.foldl (fun table entry => insert entry.1 entry.2 table) table).Perm
        (entries ++ table) := by
    clear distinct
    induction entries with
    | nil => exact fun table _ => .refl table
    | cons entry rest ih =>
        intro table distinct
        rw [List.cons_append, List.map_cons, List.nodup_cons] at distinct
        have fresh : entry.1 ∉ table.map Prod.fst := by
          intro member
          exact distinct.1 (by simp [member])
        have inserted : (rest ++ insert entry.1 entry.2 table).Perm (entry :: (rest ++ table)) :=
          ((insert_perm fresh entry.2).append_left rest).trans List.perm_middle
        refine (ih _ ?_).trans inserted
        rw [(inserted.map Prod.fst).nodup_iff, List.map_cons, List.nodup_cons]
        exact distinct
  have whole := onto [] (by rwa [List.append_nil])
  rwa [List.append_nil] at whole

/-- A table of entries is in order. -/
theorem ascending_ofList
    [DecidableLT κ] [DecidableEq κ]
    [Std.Trichotomous (α := κ) (· < ·)]
    [Trans (α := κ) (· < ·) (· < ·) (· < ·)]
    (entries : List (κ × β)) :
    Ascending (ofList entries) := by
  have onto : ∀ table, Ascending table →
      Ascending (entries.foldl (fun table entry => insert entry.1 entry.2 table) table) := by
    induction entries with
    | nil => exact fun _ ascending => ascending
    | cons entry rest ih => exact fun table ascending => ih _ (ascending.insert entry.1 entry.2)
  exact onto [] .nil

/-- A table in order has each key once. -/
theorem Ascending.nodup_keys
    [Std.Irrefl (α := κ) (· < ·)]
    {table : List (κ × β)}
    (ascending : Ascending table) :
    (table.map Prod.fst).Nodup := by
  rw [List.Nodup, List.pairwise_map]
  apply List.Pairwise.imp _ ascending
  intro earlier later below same
  rw [same] at below
  exact Std.Irrefl.irrefl (r := (· < ·)) later.1 below

omit [LT κ] in
theorem mem_keys_iff_isSome_lookup [DecidableEq κ] {key : κ} {table : List (κ × β)} :
    key ∈ table.map Prod.fst ↔ (table.lookup key).isSome := by
  rw [List.lookup_isSome_iff, List.mem_map]
  constructor
  · rintro ⟨entry, member, rfl⟩
    exact ⟨entry, member, BEq.rfl⟩
  · rintro ⟨entry, member, same⟩
    exact ⟨entry, member, (eq_of_beq same).symm⟩

section Order

variable
    [DecidableLT κ] [DecidableEq κ]
    [Std.Asymm (α := κ) (· < ·)]
    [Std.Trichotomous (α := κ) (· < ·)]
    [Trans (α := κ) (· < ·) (· < ·) (· < ·)]

/-- A table in order is built by its own entries, in whatever order they come. -/
theorem ofList_eq_of_perm
    {entries table : List (κ × β)}
    (ascending : Ascending table)
    (perm : entries.Perm table) :
    ofList entries = table := by
  have distinct : (entries.map Prod.fst).Nodup :=
    (perm.map Prod.fst).nodup_iff.mpr ascending.nodup_keys
  refine ((ofList_perm distinct).trans perm).eq_of_pairwise ?_ (ascending_ofList entries) ascending
  intro earlier later _ _ before after
  exact absurd after (Std.Asymm.asymm (r := (· < ·)) _ _ before)

/-- A table in order is the table of its own entries. -/
theorem ofList_eq_self
    {table : List (κ × β)}
    (ascending : Ascending table) :
    ofList table = table :=
  ofList_eq_of_perm ascending (.refl table)

end Order

section Built

variable [DecidableLT κ] [DecidableEq κ]

theorem ofList_append_singleton (entries : List (κ × β)) (key : κ) (value : β) :
    ofList (entries ++ [(key, value)]) = insert key value (ofList entries) := by
  rw [ofList, List.foldl_append]
  rfl

/-- Of the entries with one key, a table has the last. -/
theorem lookup_ofList (key : κ) (entries : List (κ × β)) :
    (ofList entries).lookup key = entries.reverse.lookup key := by
  induction entries using List.reverseRecOn with
  | nil => rfl
  | append_singleton front last ih =>
      rcases last with
        ⟨bound, value⟩
      rw [ofList_append_singleton, List.reverse_append, List.reverse_singleton,
        List.singleton_append]
      by_cases same : key = bound
      · subst same
        rw [lookup_insert_self, List.lookup_cons_self]
      · rw [lookup_insert_of_ne same, ih, List.lookup_cons, beq_false_of_ne same]

variable
    [Std.Asymm (α := κ) (· < ·)]
    [Std.Trichotomous (α := κ) (· < ·)]
    [Trans (α := κ) (· < ·) (· < ·) (· < ·)]

/-- A table has the keys of the entries that it is built from, each once. -/
theorem keys_ofList_perm (entries : List (κ × β)) :
    ((ofList entries).map Prod.fst).Perm (entries.map Prod.fst).dedup := by
  have once := (ascending_ofList entries).nodup_keys
  refine (List.perm_ext_iff_of_nodup once (List.nodup_dedup _)).mpr fun key => ?_
  have reversed : key ∈ entries.map Prod.fst ↔ key ∈ entries.reverse.map Prod.fst := by
    rw [List.map_reverse, List.mem_reverse]
  rw [List.mem_dedup, reversed, mem_keys_iff_isSome_lookup, mem_keys_iff_isSome_lookup,
    lookup_ofList]

/-- A table has an entry for each of those that it is built from just if no two of them
have one key. -/
theorem length_ofList_eq_iff {entries : List (κ × β)} :
    (ofList entries).length = entries.length ↔ (entries.map Prod.fst).Nodup := by
  have count := (keys_ofList_perm entries).length_eq
  rw [List.length_map] at count
  rw [count, ← List.length_map (f := Prod.fst), ← List.dedup_eq_self]
  constructor
  · exact (List.dedup_sublist _).eq_of_length
  · exact congrArg List.length

end Built

end Table

instance : Std.Asymm (α := PluralKey) (· < ·) where
  asymm left right before := by
    cases left <;> cases right <;> simp_all <;> omega

theorem pluralBranchesOrdered_iff {branches : List (PluralKey × Message)} :
    pluralBranchesOrdered branches ↔ ∀ branch ∈ branches, Message.Ordered branch.2 := by
  induction branches with
  | nil => simp [pluralBranchesOrdered]
  | cons branch rest ih => simp [pluralBranchesOrdered, ih]

theorem selectBranchesOrdered_iff {branches : List (String × Message)} :
    selectBranchesOrdered branches ↔ ∀ branch ∈ branches, Message.Ordered branch.2 := by
  induction branches with
  | nil => simp [selectBranchesOrdered]
  | cons branch rest ih => simp [selectBranchesOrdered, ih]

end IcuMessage
