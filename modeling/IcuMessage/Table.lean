/-!
# Ordered tables

A table is an association list whose keys ascend strictly, so that two tables
with the same bindings are the same list.  The branches of a plural or select
argument and the named styles of a caller are tables.

Insertion keeps the order and replaces the binding of a key that is already
there.  Look-up is `List.lookup`.
-/

namespace IcuMessage.Table

variable {κ : Type} {β : Type}

/-- The keys of a table stand in strictly ascending order. -/
def Ascending [LT κ] (table : List (κ × β)) : Prop :=
  table.Pairwise fun earlier later => earlier.1 < later.1

/-- Bind a key, in order, replacing the binding that it may have had. -/
def insert [LT κ] [DecidableLT κ] [DecidableEq κ]
    (key : κ) (value : β) : List (κ × β) → List (κ × β)
  | [] => [(key, value)]
  | (head, bound) :: rest =>
      if key = head then (key, value) :: rest
      else if key < head then (key, value) :: (head, bound) :: rest
      else (head, bound) :: insert key value rest

/-- Bind the entries from left to right; of two bindings of one key the later stays. -/
def ofList [LT κ] [DecidableLT κ] [DecidableEq κ]
    (entries : List (κ × β)) : List (κ × β) :=
  entries.foldl (fun table entry => insert entry.1 entry.2 table) []

@[simp]
theorem lookup_insert_self [LT κ] [DecidableLT κ] [DecidableEq κ]
    (key : κ) (value : β) (table : List (κ × β)) :
    (insert key value table).lookup key = some value := by
  induction table with
  | nil => simp [insert]
  | cons entry rest ih =>
      obtain ⟨head, bound⟩ := entry
      by_cases same : key = head
      · simp [insert, same]
      · by_cases before : key < head
        · simp [insert, same, before]
        · simp [insert, same, before, List.lookup_cons, beq_false_of_ne same, ih]

/-- Inserting a key leaves the other keys as they were. -/
theorem lookup_insert_of_ne [LT κ] [DecidableLT κ] [DecidableEq κ]
    {key other : κ} (different : other ≠ key) (value : β) (table : List (κ × β)) :
    (insert key value table).lookup other = table.lookup other := by
  induction table with
  | nil => simp [insert, List.lookup_cons, beq_false_of_ne different]
  | cons entry rest ih =>
      obtain ⟨head, bound⟩ := entry
      by_cases same : key = head
      · subst same
        simp [insert, List.lookup_cons, beq_false_of_ne different]
      · by_cases before : key < head
        · simp [insert, same, before, List.lookup_cons, beq_false_of_ne different]
        · simp only [insert, same, before, if_false, List.lookup_cons, ih]

/-- Look-up after a change of all values changes the value that is found. -/
theorem lookup_map [BEq κ] {γ : Type} (change : β → γ) (key : κ) (table : List (κ × β)) :
    (table.map fun entry => (entry.1, change entry.2)).lookup key =
      (table.lookup key).map change := by
  induction table with
  | nil => rfl
  | cons entry rest ih =>
      obtain ⟨head, bound⟩ := entry
      simp only [List.map_cons, List.lookup_cons, ih]
      cases key == head <;> rfl

theorem insert_map [LT κ] [DecidableLT κ] [DecidableEq κ] {γ : Type} (change : β → γ)
    (key : κ) (value : β) (table : List (κ × β)) :
    insert key (change value) (table.map fun entry => (entry.1, change entry.2)) =
      (insert key value table).map fun entry => (entry.1, change entry.2) := by
  induction table with
  | nil => rfl
  | cons entry rest ih =>
      obtain ⟨head, bound⟩ := entry
      simp only [List.map_cons, insert, ih]
      split
      · rfl
      · split <;> rfl

/-- Values may be changed before or after the entries are put in order. -/
theorem ofList_map [LT κ] [DecidableLT κ] [DecidableEq κ] {γ : Type} (change : β → γ)
    (entries : List (κ × β)) :
    ofList (entries.map fun entry => (entry.1, change entry.2)) =
      (ofList entries).map fun entry => (entry.1, change entry.2) := by
  have onto : ∀ table : List (κ × β),
      (entries.map fun entry => (entry.1, change entry.2)).foldl
          (fun table entry => insert entry.1 entry.2 table)
          (table.map fun entry => (entry.1, change entry.2)) =
        (entries.foldl (fun table entry => insert entry.1 entry.2 table) table).map
          fun entry => (entry.1, change entry.2) := by
    induction entries with
    | nil => exact fun _ => rfl
    | cons entry rest ih =>
        intro table
        obtain ⟨key, value⟩ := entry
        simp only [List.map_cons, List.foldl_cons, insert_map, ih]
  exact onto []

/-- What look-up finds is in the table. -/
theorem mem_of_lookup [BEq κ] [LawfulBEq κ] {key : κ} {value : β} {table : List (κ × β)}
    (found : table.lookup key = some value) : (key, value) ∈ table := by
  obtain ⟨front, back, rfl, _⟩ := List.lookup_eq_some_iff.mp found
  simp

theorem mem_insert [LT κ] [DecidableLT κ] [DecidableEq κ]
    {key : κ} {value : β} {table : List (κ × β)} {entry : κ × β}
    (member : entry ∈ insert key value table) :
    entry = (key, value) ∨ entry ∈ table := by
  induction table with
  | nil => simpa [insert] using member
  | cons first rest ih =>
      obtain ⟨head, bound⟩ := first
      by_cases same : key = head
      · simp only [insert, same, if_true, List.mem_cons] at member ⊢
        exact member.imp_right Or.inr
      · by_cases before : key < head
        · simpa [insert, same, before] using member
        · simp only [insert, same, before, if_false, List.mem_cons] at member ⊢
          rcases member with first | later
          · exact Or.inr (Or.inl first)
          · exact (ih later).imp_right Or.inr

/-- Every entry of the table is one of the given entries. -/
theorem mem_ofList [LT κ] [DecidableLT κ] [DecidableEq κ]
    {entries : List (κ × β)} {entry : κ × β}
    (member : entry ∈ ofList entries) :
    entry ∈ entries := by
  have bound : ∀ table, entry ∈ entries.foldl (fun table entry => insert entry.1 entry.2 table) table →
      entry ∈ table ∨ entry ∈ entries := by
    clear member
    induction entries with
    | nil => exact fun _ => Or.inl
    | cons first rest ih =>
        intro table member
        rcases ih _ member with inserted | later
        · rcases mem_insert inserted with rfl | before
          · exact Or.inr List.mem_cons_self
          · exact Or.inl before
        · exact Or.inr (List.mem_cons_of_mem _ later)
  exact (bound [] member).resolve_left List.not_mem_nil

/-- Inserting a key keeps the table in order. -/
theorem Ascending.insert [LT κ] [DecidableLT κ] [DecidableEq κ]
    [Std.Trichotomous (α := κ) (· < ·)]
    [Trans (α := κ) (· < ·) (· < ·) (· < ·)]
    {table : List (κ × β)} (ascending : Ascending table)
    (key : κ) (value : β) :
    Ascending (Table.insert key value table) := by
  induction table with
  | nil => simp [Table.insert, Ascending]
  | cons entry rest ih =>
      obtain ⟨head, bound⟩ := entry
      obtain ⟨below, tail⟩ := List.pairwise_cons.mp ascending
      by_cases same : key = head
      · subst same
        simpa [Table.insert, Ascending] using ascending
      · by_cases before : key < head
        · simp only [Table.insert, same, before, if_false, if_true]
          refine List.pairwise_cons.mpr ⟨fun later member => ?_, ascending⟩
          rcases List.mem_cons.mp member with rfl | member
          · exact before
          · exact Trans.trans before (below later member)
        · simp only [Table.insert, same, before, if_false]
          refine List.pairwise_cons.mpr ⟨fun later member => ?_, ih tail⟩
          rcases mem_insert member with rfl | member
          · rcases Std.Trichotomous.rel_or_eq_or_rel_swap (r := (· < ·)) (a := key) (b := head)
              with less | equal | greater
            · exact absurd less before
            · exact absurd equal same
            · exact greater
          · exact below later member

end IcuMessage.Table
