import IcuMessage.Proofs.Message.OrderedTables
import IcuMessage.Proofs.Wire.Alike
import IcuMessage.Wire.Message
import Mathlib.Data.List.Perm.Basic

/-!
# Branches as JSON

The branches of an argument are read from the entries of an object one after the
other into a table.  `DenotesBranches` says which table this is: the one that the
branches of the entries build.  It does not depend on the order of the entries as
long as their keys are different; where two keys are spellings of one, the later
entry stays.
-/

namespace IcuMessage

variable {κ : Type} [LT κ] [DecidableLT κ] [DecidableEq κ]

/-- An entry of an object is read as a branch. -/
structure EntryReadAs (readKey? : String → Option κ)
    (entry : String × Json) (branch : κ × Message) : Prop where
  key : readKey? entry.1 = some branch.1
  body : Message.ofJson? true entry.2 = some branch.2

/-- Read an entry of an object and add it to a table. -/
def addBranch? (readKey? : String → Option κ)
    (table : List (κ × Message)) (entry : String × Json) : Option (List (κ × Message)) := do
  let key ← readKey? entry.1
  let body ← Message.ofJson? true entry.2
  some (Table.insert key body table)

/-- A value is an object whose entries build a table. -/
def DenotesBranches (readKey? : String → Option κ)
    (json : Json) (table : List (κ × Message)) : Prop :=
  ∃ entries branches,
    json = .object entries ∧ List.Forall₂ (EntryReadAs readKey?) entries branches ∧
      Table.ofList branches = table

variable {readKey? : String → Option κ}

/-- Branches are read entry by entry, and the last entry of a key counts. -/
theorem foldlM_addBranch?_iff
    {entries : List (String × Json)}
    {table result : List (κ × Message)} :
    entries.foldlM (addBranch? readKey?) table = some result ↔
      ∃ branches, List.Forall₂ (EntryReadAs readKey?) entries branches ∧
        branches.foldl (fun table branch => Table.insert branch.1 branch.2 table) table =
          result := by
  induction entries generalizing table with
  | nil =>
      constructor
      · intro read
        exact ⟨[], .nil, Option.some.inj read⟩
      · rintro ⟨branches, each, rfl⟩
        cases each
        rfl
  | cons entry rest ih =>
      rw [List.foldlM_cons, addBranch?]
      constructor
      · intro read
        simp only [bind, Option.bind_eq_some_iff] at read
        rcases read with
          ⟨inserted, ⟨key, readKey, body, readBody, same⟩, later⟩
        cases same
        rcases ih.mp later with
          ⟨branches, each, built⟩
        exact ⟨(key, body) :: branches, .cons ⟨readKey, readBody⟩ each, built⟩
      · rintro ⟨branches, each, built⟩
        cases each with
        | @cons _ branch _ _ first each =>
            simp only [bind, Option.bind_eq_some_iff]
            refine ⟨_, ⟨_, first.key, _, first.body, rfl⟩, ?_⟩
            exact ih.mpr ⟨_, each, built⟩

theorem pluralBranchesOfEntries?_eq
    (table : List (PluralKey × Message))
    (entries : List (String × Json)) :
    pluralBranchesOfEntries? table entries =
      entries.foldlM (addBranch? PluralKey.ofEntryKey?) table := by
  induction entries generalizing table with
  | nil =>
      rw [pluralBranchesOfEntries?]
      rfl
  | cons entry rest ih =>
      rw [pluralBranchesOfEntries?, List.foldlM_cons, addBranch?]
      simp only [ih, bind, Option.bind_assoc, Option.bind_some]

theorem selectBranchesOfEntries?_eq
    (table : List (String × Message))
    (entries : List (String × Json)) :
    selectBranchesOfEntries? table entries = entries.foldlM (addBranch? some) table := by
  induction entries generalizing table with
  | nil =>
      rw [selectBranchesOfEntries?]
      rfl
  | cons entry rest ih =>
      rw [selectBranchesOfEntries?, List.foldlM_cons, addBranch?]
      simp only [ih, bind, Option.bind_assoc, Option.bind_some]

theorem denotesBranches_object_iff
    {entries : List (String × Json)}
    {table : List (κ × Message)} :
    DenotesBranches readKey? (.object entries) table ↔
      entries.foldlM (addBranch? readKey?) [] = some table := by
  rw [foldlM_addBranch?_iff]
  constructor
  · rintro ⟨_, branches, same, each, built⟩
    cases same
    exact ⟨branches, each, built⟩
  · rintro ⟨branches, each, built⟩
    exact ⟨entries, branches, rfl, each, built⟩

/-- JSON is read as the plural branches that it denotes. -/
theorem pluralBranchesOfJson?_iff
    {json : Json}
    {table : List (PluralKey × Message)} :
    pluralBranchesOfJson? json = some table ↔
      DenotesBranches PluralKey.ofEntryKey? json table := by
  cases json with
  | object entries =>
      rw [denotesBranches_object_iff, pluralBranchesOfJson?, pluralBranchesOfEntries?_eq]
  | _ =>
      constructor
      · intro read
        cases read
      · rintro ⟨_, _, same, _⟩
        cases same

/-- JSON is read as the select branches that it denotes. -/
theorem selectBranchesOfJson?_iff
    {json : Json}
    {table : List (String × Message)} :
    selectBranchesOfJson? json = some table ↔ DenotesBranches some json table := by
  cases json with
  | object entries =>
      rw [denotesBranches_object_iff, selectBranchesOfJson?, selectBranchesOfEntries?_eq]
  | _ =>
      constructor
      · intro read
        cases read
      · rintro ⟨_, _, same, _⟩
        cases same

theorem pluralBranchesToJson_eq (branches : List (PluralKey × Message)) :
    pluralBranchesToJson branches =
      branches.map fun branch => (branch.1.write, branch.2.toJson) := by
  induction branches with
  | nil => rfl
  | cons branch rest ih =>
      rw [pluralBranchesToJson, ih]
      rfl

theorem selectBranchesToJson_eq (branches : List (String × Message)) :
    selectBranchesToJson branches = branches.map fun branch => (branch.1, branch.2.toJson) := by
  induction branches with
  | nil => rfl
  | cons branch rest ih =>
      rw [selectBranchesToJson, ih]
      rfl

namespace DenotesBranches

variable {json : Json} {table : List (κ × Message)}

/-- The table is ordered, and its messages are those of entries. -/
theorem ascending
    [Std.Trichotomous (α := κ) (· < ·)]
    [Trans (α := κ) (· < ·) (· < ·) (· < ·)]
    (denotes : DenotesBranches readKey? json table) :
    Table.Ascending table := by
  rcases denotes with
    ⟨entries, branches, rfl, each, rfl⟩
  exact Table.ascending_ofList branches

theorem exists_entry
    {entries : List (String × Json)}
    (denotes : DenotesBranches readKey? (.object entries) table)
    {branch : κ × Message}
    (member : branch ∈ table) :
    ∃ entry ∈ entries, EntryReadAs readKey? entry branch := by
  rcases denotes with
    ⟨_, branches, same, each, rfl⟩
  cases same
  have among := Table.mem_ofList member
  clear member
  induction each with
  | nil => cases among
  | @cons entry _ _ _ first _ ih =>
      rcases List.mem_cons.mp among with rfl | later
      · exact ⟨entry, List.mem_cons_self, first⟩
      · rcases ih later with
          ⟨found, member, reads⟩
        exact ⟨found, List.mem_cons_of_mem _ member, reads⟩

/-- The entries that are written for a table denote it in any order. -/
theorem of_alike
    [Std.Asymm (α := κ) (· < ·)]
    [Std.Trichotomous (α := κ) (· < ·)]
    [Trans (α := κ) (· < ·) (· < ·) (· < ·)]
    {writeKey : κ → String}
    (ascending : Table.Ascending table)
    (keys : ∀ key, readKey? (writeKey key) = some key)
    (bodies : ∀ branch ∈ table, ∀ body,
      Json.Alike body branch.2.toJson → Message.ofJson? true body = some branch.2)
    (alike : Json.Alike json
      (.object (table.map fun branch => (writeKey branch.1, branch.2.toJson)))) :
    DenotesBranches readKey? json table := by
  rcases alike.of_object with
    ⟨entries, rfl, moved, reordered, each⟩
  rw [List.forall₂_map_right_iff] at each
  have read : List.Forall₂ (EntryReadAs readKey?) moved table := by
    clear ascending reordered alike
    induction each with
    | nil => exact .nil
    | @cons entry branch _ _ same _ ih =>
        refine .cons ⟨?_, ?_⟩ (ih fun later member => bodies later (.tail _ member))
        · rw [same.1, keys]
        · exact bodies branch List.mem_cons_self entry.2 same.2
  rcases List.perm_comp_forall₂ reordered read with
    ⟨branches, here, perm⟩
  exact ⟨entries, branches, rfl, here, Table.ofList_eq_of_perm ascending perm⟩

end DenotesBranches

end IcuMessage
