import IcuMessage.Proofs.Outcome
import IcuMessage.Style.Memo

/-!
# Memos of resolved styles

A memo has two tables, and each is kept in the same way: what a key resolves to is
put into the table when the key is asked for the first time.  `resolveOnce` is this step
for one table of any kind, and `resolveOnce_cases` says all that it can do.

A memo is faithful to a style sheet if every style in it is kept with what it
resolves to in its own category.  Requests keep a memo faithful, whatever they ask
for and whether or not they succeed, and a faithful memo answers as the style sheet
does (`StyleMemo.Faithful.numberSet` and `StyleMemo.Faithful.dateTimeSet`).
-/

namespace IcuMessage

/-! ## One table -/

section ResolveOnce

variable {κ β : Type} [BEq κ]

/-- Resolve a key unless it is in the table. -/
def resolveOnce (resolve : κ → Except Failure β) (entries : List (κ × β)) (key : κ) :
    Except Failure (List (κ × β)) :=
  match entries.lookup key with
  | some _ => .ok entries
  | none => do
      let value ← resolve key
      .ok ((key, value) :: entries)

/-- What the table has for a key is what the key resolves to. -/
def Resolved (resolve : κ → Except Failure β) (entries : List (κ × β)) : Prop :=
  ∀ key value, entries.lookup key = some value → resolve key = .ok value

/-- The table has one entry for each key that was asked for, and no other entries. -/
structure KeptOnce (asked : κ → Prop) (entries : List (κ × β)) : Prop where
  distinct : (entries.map Prod.fst).Nodup
  keys : ∀ key, key ∈ entries.map Prod.fst ↔ asked key

variable {resolve : κ → Except Failure β} {entries : List (κ × β)}

theorem resolved_nil : Resolved resolve [] := by
  intro key value found
  cases found

omit [BEq κ] in
theorem keptOnce_nil : KeptOnce (β := β) (fun _ : κ => False) [] :=
  ⟨List.nodup_nil, fun _ => List.mem_nil_iff _⟩

variable [LawfulBEq κ]

/-- An entry that is resolved as the sheet says keeps the table resolved. -/
theorem Resolved.cons
    (resolved : Resolved resolve entries)
    {key : κ}
    {value : β}
    (own : resolve key = .ok value) :
    Resolved resolve ((key, value) :: entries) := by
  intro other kept found
  rw [List.lookup_cons] at found
  cases same : other == key with
  | true =>
      rw [same] at found
      cases found
      rw [eq_of_beq same, own]
  | false =>
      rw [same] at found
      exact resolved other kept found

theorem mem_keys_iff
    {key : κ} :
    key ∈ entries.map Prod.fst ↔ ∃ value, entries.lookup key = some value := by
  rw [← Option.isSome_iff_exists, List.lookup_isSome_iff, List.mem_map]
  constructor
  · rintro ⟨entry, member, rfl⟩
    exact ⟨entry, member, BEq.rfl⟩
  · rintro ⟨entry, member, same⟩
    exact ⟨entry, member, (eq_of_beq same).symm⟩

/-- A key that was missing is kept once. -/
theorem KeptOnce.cons
    {asked : κ → Prop}
    (kept : KeptOnce asked entries)
    {key : κ}
    (missing : entries.lookup key = none)
    (value : β) :
    KeptOnce (fun other => asked other ∨ other = key) ((key, value) :: entries) := by
  constructor
  · rw [List.map_cons, List.nodup_cons, mem_keys_iff, missing]
    exact ⟨nofun, kept.distinct⟩
  · intro other
    rw [List.map_cons, List.mem_cons, kept.keys, or_comm]

/-- A key that is there is not kept a second time. -/
theorem KeptOnce.again
    {asked : κ → Prop}
    (kept : KeptOnce asked entries)
    {key : κ}
    {value : β}
    (found : entries.lookup key = some value) :
    KeptOnce (fun other => asked other ∨ other = key) entries := by
  have before : asked key := (kept.keys key).mp (mem_keys_iff.mpr ⟨value, found⟩)
  refine ⟨kept.distinct, fun other => ?_⟩
  rw [kept.keys]
  constructor
  · exact Or.inl
  · rintro (earlier | rfl)
    · exact earlier
    · exact before

/-- A key that does not resolve is refused, even if others are kept; any other key
is kept once from then on. -/
theorem resolveOnce_cases
    (resolved : Resolved resolve entries)
    (key : κ) :
    (∃ error, resolve key = .error error ∧ resolveOnce resolve entries key = .error error) ∨
      ∃ value later,
        resolve key = .ok value ∧
          resolveOnce resolve entries key = .ok later ∧
          Resolved resolve later ∧
          ∀ asked, KeptOnce asked entries →
            KeptOnce (fun other => asked other ∨ other = key) later := by
  rw [resolveOnce]
  cases found : entries.lookup key with
  | some value =>
      exact Or.inr ⟨value, entries, resolved key value found, rfl, resolved,
        fun asked kept => kept.again found⟩
  | none =>
      cases own : resolve key with
      | error error => exact Or.inl ⟨error, rfl, rfl⟩
      | ok value =>
          exact Or.inr ⟨value, _, rfl, rfl, resolved.cons own,
            fun asked kept => kept.cons found value⟩

end ResolveOnce

/-! ## Both tables -/

/-- Whether a style resolves in a category, and why not. -/
def StyleSheet.check (sheet : StyleSheet) (category : Category) (style : Option Style) :
    Except Failure Unit :=
  match category with
  | .number => (sheet.resolveNumber style).map fun _ => ()
  | .date => (sheet.resolveDate style).map fun _ => ()
  | .time => (sheet.resolveTime style).map fun _ => ()

namespace StyleMemo

/-- Every style of the memo is kept with what it resolves to. -/
structure Faithful (memo : StyleMemo) (sheet : StyleSheet) : Prop where
  numbers : Resolved sheet.resolveNumber memo.numbers
  dateTimes :
    Resolved (fun key : Category × Option Style => sheet.resolveDateTime key.1 key.2)
      memo.dateTimes

/-- The memo has one entry for each style of numbers that was asked for, one for each
category of dates and times with a style that was asked for, and no other entries. -/
structure Collects (memo : StyleMemo) (asked : Category → Option Style → Prop) : Prop where
  numbers : KeptOnce (asked .number) memo.numbers
  dateTimes :
    KeptOnce (fun key : Category × Option Style => key.1 ≠ .number ∧ asked key.1 key.2)
      memo.dateTimes

variable {memo : StyleMemo} {sheet : StyleSheet}

theorem faithful_empty (sheet : StyleSheet) : Faithful {} sheet :=
  ⟨resolved_nil, resolved_nil⟩

theorem collects_empty : Collects {} fun _ _ => False := by
  refine ⟨keptOnce_nil, ?_⟩
  simpa only [and_false] using keptOnce_nil

theorem Collects.congr
    {asked others : Category → Option Style → Prop}
    (collects : memo.Collects asked)
    (same : ∀ category style, asked category style ↔ others category style) :
    memo.Collects others := by
  have equal : asked = others := by
    funext category style
    exact propext (same category style)
  exact equal ▸ collects

theorem rememberNumber_eq_resolveOnce (style : Option Style) :
    memo.rememberNumber sheet style =
      (resolveOnce sheet.resolveNumber memo.numbers style).map fun numbers =>
        { memo with numbers := numbers } := by
  rw [rememberNumber, resolveOnce]
  cases memo.numbers.lookup style with
  | some options => rfl
  | none => cases sheet.resolveNumber style <;> rfl

theorem rememberDateTime_eq_resolveOnce (category : Category) (style : Option Style) :
    memo.rememberDateTime sheet category style =
      (resolveOnce (fun key : Category × Option Style => sheet.resolveDateTime key.1 key.2)
          memo.dateTimes (category, style)).map fun dateTimes =>
        { memo with dateTimes := dateTimes } := by
  rw [rememberDateTime, resolveOnce]
  cases memo.dateTimes.lookup (category, style) with
  | some options => rfl
  | none => cases sheet.resolveDateTime category style <;> rfl

/-- What a request does to a faithful memo: it is refused if its style does not resolve
in its category, whatever the memo holds, and otherwise its style is kept. -/
inductive Remembered (memo : StyleMemo) (sheet : StyleSheet) (category : Category)
    (style : Option Style) : Except Failure StyleMemo → Prop where
  | refused {error : Failure}
      (refuses : sheet.check category style = .error error) :
      Remembered memo sheet category style (.error error)
  | kept {later : StyleMemo}
      (resolves : sheet.check category style = .ok ())
      (faithful : later.Faithful sheet)
      (collects : ∀ asked, memo.Collects asked →
        later.Collects fun otherCategory other =>
          asked otherCategory other ∨ otherCategory = category ∧ other = style) :
      Remembered memo sheet category style (.ok later)

/-- A faithful memo remembers a number style as the sheet resolves it. -/
theorem Faithful.remembered_number
    (faithful : memo.Faithful sheet)
    (style : Option Style) :
    Remembered memo sheet .number style (memo.rememberNumber sheet style) := by
  rw [rememberNumber_eq_resolveOnce]
  rcases resolveOnce_cases faithful.numbers style with
    ⟨error, refuses, refused⟩ | ⟨options, later, resolves, kept, resolved, once⟩
  · rw [refused]
    exact .refused (by rw [StyleSheet.check, refuses]; rfl)
  · rw [kept]
    refine .kept (by rw [StyleSheet.check, resolves]; rfl) ⟨resolved, faithful.dateTimes⟩ ?_
    rintro asked ⟨numbers, dateTimes⟩
    constructor
    · simpa only [true_and] using once _ numbers
    · refine ⟨dateTimes.distinct, fun key => ?_⟩
      rw [dateTimes.keys]
      refine and_congr_right fun other => ?_
      simp only [other, false_and, or_false]

/-- A faithful memo remembers a style of dates or times as the sheet resolves it. -/
theorem Faithful.remembered_dateTime
    (faithful : memo.Faithful sheet)
    {category : Category}
    (noNumber : category ≠ .number)
    (checked : ∀ style, sheet.check category style =
      (sheet.resolveDateTime category style).map fun _ => ())
    (style : Option Style) :
    Remembered memo sheet category style (memo.rememberDateTime sheet category style) := by
  rw [rememberDateTime_eq_resolveOnce]
  rcases resolveOnce_cases faithful.dateTimes (category, style) with
    ⟨error, refuses, refused⟩ | ⟨options, later, resolves, kept, resolved, once⟩
  · rw [refused]
    exact .refused (by rw [checked, refuses]; rfl)
  · rw [kept]
    refine .kept (by rw [checked, resolves]; rfl) ⟨faithful.numbers, resolved⟩ ?_
    rintro asked ⟨numbers, dateTimes⟩
    constructor
    · simpa only [Ne.symm noNumber, false_and, or_false] using numbers
    · have grown := once _ dateTimes
      refine ⟨grown.distinct, ?_⟩
      rintro ⟨other, otherStyle⟩
      rw [grown.keys, Prod.mk.injEq]
      constructor
      · rintro (⟨different, before⟩ | ⟨rfl, rfl⟩)
        · exact ⟨different, Or.inl before⟩
        · exact ⟨noNumber, Or.inr ⟨rfl, rfl⟩⟩
      · rintro ⟨different, before | own⟩
        · exact Or.inl ⟨different, before⟩
        · exact Or.inr own

/-- All that a request can do to a faithful memo. -/
theorem Faithful.remembered
    (faithful : memo.Faithful sheet)
    (category : Category)
    (style : Option Style) :
    Remembered memo sheet category style (memo.remember sheet category style) := by
  cases category with
  | number => exact faithful.remembered_number style
  | date => exact faithful.remembered_dateTime (by decide) (fun _ => rfl) style
  | time => exact faithful.remembered_dateTime (by decide) (fun _ => rfl) style

/-- A faithful memo has the option set of a number style, or finds it. -/
theorem Faithful.numberSet
    (faithful : memo.Faithful sheet)
    (style : Option Style) :
    memo.numberSet sheet style = sheet.resolveNumber style := by
  rw [StyleMemo.numberSet]
  cases found : memo.numbers.lookup style with
  | some options => exact (faithful.numbers style options found).symm
  | none => rfl

/-- A faithful memo has the option set of a style of dates or times, or finds it. -/
theorem Faithful.dateTimeSet
    (faithful : memo.Faithful sheet)
    (category : Category)
    (style : Option Style) :
    memo.dateTimeSet sheet category style = sheet.resolveDateTime category style := by
  rw [StyleMemo.dateTimeSet]
  cases found : memo.dateTimes.lookup (category, style) with
  | some options => exact (faithful.dateTimes (category, style) options found).symm
  | none => rfl

end StyleMemo

end IcuMessage
