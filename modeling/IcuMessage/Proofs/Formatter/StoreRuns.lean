import IcuMessage.Formatter.Store
import Mathlib.Data.Set.Card

/-!
# Stores over whole runs

A store is used in steps: it is asked for a formatter, or lets go of all that it
has.  This module supplies what one step does to a store, by cases, and the
invariant that every step keeps: each formatter in the store is that of its
request, no two stand under one request or one number, and the next number is
above all of them.

Two main statements are about all that a store answers in a run.  Two answers
are one formatter if and only if they were asked for by the same request and
the store was not cleared in between (`formatterStore_shares`).  What is
answered is what building the formatter anew would give
(`formatterStore_answers_like_create`).
-/

namespace IcuMessage

/-- What a store may be used for. -/
inductive StoreStep where
  /-- To ask for the formatter of a request. -/
  | fetch (request : Request)
  /-- To let go of all formatters. -/
  | clear

namespace FormatterStore

/-- The store behind a step. -/
def step (store : FormatterStore) : StoreStep → FormatterStore
  | .fetch request => (store.fetch request).1
  | .clear => store.clear

/-- The store behind steps. -/
def run (store : FormatterStore) (steps : List StoreStep) : FormatterStore :=
  steps.foldl step store

/-- What a store answers to a request. -/
def answer (store : FormatterStore) (request : Request) : Except Failure StoredFormatter :=
  (store.fetch request).2.outcome

@[simp]
theorem run_nil (store : FormatterStore) : store.run [] = store := rfl

@[simp]
theorem run_cons (store : FormatterStore) (first : StoreStep) (rest : List StoreStep) :
    store.run (first :: rest) = (store.step first).run rest := rfl

@[simp]
theorem run_append (store : FormatterStore) (front back : List StoreStep) :
    store.run (front ++ back) = (store.run front).run back :=
  List.foldl_append

/-! ## One step -/

/-- The store behind the fetching of a request, and the answer. -/
inductive Fetching (store : FormatterStore) (request : Request) :
    FormatterStore → Except Failure StoredFormatter → Prop where
  /-- The formatter is there. -/
  | found {stored : StoredFormatter}
      (present : store.entries.lookup request = some stored) :
      Fetching store request store (.ok stored)
  /-- The formatter cannot be built. -/
  | failed {failure : Failure}
      (absent : store.entries.lookup request = none)
      (refused : (store.build request).outcome = .error failure) :
      Fetching store request store (.error failure)
  /-- The formatter is built and kept. -/
  | built {formatter : Formatter}
      (absent : store.entries.lookup request = none)
      (created : (store.build request).outcome = .ok formatter) :
      Fetching store request (store.keep request formatter) (.ok ⟨store.built, formatter⟩)

/-- Every request to a store has one of the three ends of `Fetching`. -/
theorem fetching (store : FormatterStore) (request : Request) :
    Fetching store request (store.step (.fetch request)) (store.answer request) := by
  rw [step, answer, fetch]
  cases present : store.entries.lookup request with
  | some stored => exact .found present
  | none =>
      cases created : (store.build request).outcome with
      | error failure =>
          simp only [created]
          exact .failed present created
      | ok formatter =>
          simp only [created]
          exact .built present created

/-- Every entry of a store is the formatter of its request, and can be told
from all others by its request and by its number. -/
structure Coherent (store : FormatterStore) : Prop where
  own : ∀ entry ∈ store.entries, (store.build entry.1).outcome = .ok entry.2.formatter
  counted : ∀ entry ∈ store.entries, entry.2.number < store.built
  requests : (store.entries.map Prod.fst).Nodup
  numbers : (store.entries.map fun entry => entry.2.number).Nodup

/-- No number that a store holds or will give out is below the bound. -/
structure NumbersFrom (bound : Nat) (store : FormatterStore) : Prop where
  next : bound ≤ store.built
  held : ∀ entry ∈ store.entries, bound ≤ entry.2.number

/-- A store without entries is coherent. -/
theorem coherent_of_no_entries
    {store : FormatterStore}
    (empty : store.entries = []) :
    Coherent store := by
  constructor <;> simp [empty]

namespace Fetching

variable
    {store after : FormatterStore}
    {request : Request}
    {answered : Except Failure StoredFormatter}

theorem settings_eq (fetched : Fetching store request after answered) :
    after.settings = store.settings := by
  cases fetched <;> rfl

theorem built_le (fetched : Fetching store request after answered) :
    store.built ≤ after.built := by
  cases fetched with
  | found present => exact Nat.le_refl _
  | failed absent refused => exact Nat.le_refl _
  | built absent created => exact Nat.le_succ _

/-- A request that fails leaves the entries as they were. -/
theorem entries_of_error
    {failure : Failure}
    (fetched : Fetching store request after (.error failure)) :
    after.entries = store.entries := by
  cases fetched
  rfl

/-- What is answered is in the store from then on. -/
theorem mem_of_ok
    {stored : StoredFormatter}
    (fetched : Fetching store request after (.ok stored)) :
    (request, stored) ∈ after.entries := by
  cases fetched with
  | found present => exact Table.mem_of_lookup present
  | built absent created => exact List.mem_cons_self

/-- A request drops no entry. -/
theorem mem_of_mem
    (fetched : Fetching store request after answered)
    {entry : Request × StoredFormatter}
    (member : entry ∈ store.entries) :
    entry ∈ after.entries := by
  cases fetched with
  | found present => exact member
  | failed absent refused => exact member
  | built absent created => exact List.mem_cons_of_mem _ member

/-- Nothing but what is answered comes into the store. -/
theorem mem_or_answered
    (fetched : Fetching store request after answered)
    {entry : Request × StoredFormatter}
    (member : entry ∈ after.entries) :
    entry ∈ store.entries ∨ entry.1 = request ∧ answered = .ok entry.2 := by
  cases fetched with
  | found present => exact Or.inl member
  | failed absent refused => exact Or.inl member
  | built absent created =>
      rcases List.mem_cons.mp member with rfl | earlier
      · exact Or.inr ⟨rfl, rfl⟩
      · exact Or.inl earlier

theorem coherent
    (fetched : Fetching store request after answered)
    (before : Coherent store) :
    Coherent after := by
  cases fetched with
  | found present => exact before
  | failed absent refused => exact before
  | built absent created =>
      constructor
      · intro entry member
        rcases List.mem_cons.mp member with rfl | earlier
        · exact created
        · exact before.own entry earlier
      · intro entry member
        rcases List.mem_cons.mp member with rfl | earlier
        · exact Nat.lt_succ_self store.built
        · exact Nat.lt_succ_of_lt (before.counted entry earlier)
      · refine List.nodup_cons.mpr ⟨?_, before.requests⟩
        intro again
        rcases List.mem_map.mp again with
          ⟨entry, member, same⟩
        have other := List.lookup_eq_none_iff.mp absent entry member
        simp [same] at other
      · refine List.nodup_cons.mpr ⟨?_, before.numbers⟩
        intro again
        rcases List.mem_map.mp again with
          ⟨entry, member, same⟩
        exact absurd same (Nat.ne_of_lt (before.counted entry member))

theorem numbersFrom
    {bound : Nat}
    (fetched : Fetching store request after answered)
    (before : NumbersFrom bound store) :
    NumbersFrom bound after := by
  cases fetched with
  | found present => exact before
  | failed absent refused => exact before
  | built absent created =>
      constructor
      · exact Nat.le_succ_of_le before.next
      · intro entry member
        rcases List.mem_cons.mp member with rfl | earlier
        · exact before.next
        · exact before.held entry earlier

/-- A coherent store answers what building the formatter anew gives. -/
theorem answered_eq_build
    (fetched : Fetching store request after answered)
    (before : Coherent store) :
    answered.map StoredFormatter.formatter = (store.build request).outcome := by
  cases fetched with
  | found present => exact (before.own _ (Table.mem_of_lookup present)).symm
  | failed absent refused => exact refused.symm
  | built absent created => exact created.symm

end Fetching

theorem numbersFrom_clear (store : FormatterStore) : NumbersFrom store.built store.clear := by
  constructor
  · exact Nat.le_refl _
  · intro entry member
    cases member

/-! ## Runs -/

/-- No step changes the settings of a store. -/
theorem settings_run (store : FormatterStore) (steps : List StoreStep) :
    (store.run steps).settings = store.settings := by
  induction steps generalizing store with
  | nil => rfl
  | cons first rest ih =>
      rw [run_cons, ih]
      cases first with
      | fetch request => exact (store.fetching request).settings_eq
      | clear => rfl

/-- The count of formatters that were built never goes back. -/
theorem built_le_run (store : FormatterStore) (steps : List StoreStep) :
    store.built ≤ (store.run steps).built := by
  induction steps generalizing store with
  | nil => exact Nat.le_refl _
  | cons first rest ih =>
      refine Nat.le_trans ?_ (ih (store.step first))
      cases first with
      | fetch request => exact (store.fetching request).built_le
      | clear => exact Nat.le_refl _

/-- A coherent store stays coherent. -/
theorem Coherent.run
    {store : FormatterStore}
    (before : Coherent store)
    (steps : List StoreStep) :
    Coherent (store.run steps) := by
  induction steps generalizing store with
  | nil => exact before
  | cons first rest ih =>
      apply ih
      cases first with
      | fetch request => exact (store.fetching request).coherent before
      | clear => exact coherent_of_no_entries rfl

/-- The numbers of the entries stay above a bound. -/
theorem NumbersFrom.run
    {bound : Nat}
    {store : FormatterStore}
    (before : NumbersFrom bound store)
    (steps : List StoreStep) :
    NumbersFrom bound (store.run steps) := by
  induction steps generalizing store with
  | nil => exact before
  | cons first rest ih =>
      apply ih
      cases first with
      | fetch request => exact (store.fetching request).numbersFrom before
      | clear =>
          constructor
          · exact before.next
          · intro entry member
            cases member

/-- A formatter stays in a store until the store is cleared. -/
theorem mem_run_of_mem
    {store : FormatterStore}
    {steps : List StoreStep}
    {entry : Request × StoredFormatter}
    (uncleared : .clear ∉ steps)
    (member : entry ∈ store.entries) :
    entry ∈ (store.run steps).entries := by
  induction steps generalizing store with
  | nil => exact member
  | cons first rest ih =>
      rw [List.mem_cons, not_or] at uncleared
      apply ih uncleared.2
      cases first with
      | fetch request => exact (store.fetching request).mem_of_mem member
      | clear => exact absurd rfl uncleared.1

/-- A request was answered with a formatter, and the store was not cleared
behind that. -/
def FetchedSinceClear (store : FormatterStore) (steps : List StoreStep) (request : Request) :
    Prop :=
  ∃ front back stored,
    steps = front ++ .fetch request :: back ∧ .clear ∉ back ∧
      (store.run front).answer request = .ok stored

/-- A store holds formatters for the requests that have been answered with one
since it was cleared, and for no others. -/
theorem exists_mem_run_iff
    {store : FormatterStore}
    (empty : store.entries = [])
    {steps : List StoreStep}
    {request : Request} :
    (∃ stored, (request, stored) ∈ (store.run steps).entries) ↔
      store.FetchedSinceClear steps request := by
  constructor
  · induction steps using List.reverseRecOn with
    | nil =>
        rintro ⟨stored, member⟩
        rw [run_nil, empty] at member
        cases member
    | append_singleton steps last ih =>
        rintro ⟨stored, member⟩
        rw [run_append, run_cons, run_nil] at member
        cases last with
        | clear => cases member
        | fetch other =>
            rcases ((store.run steps).fetching other).mem_or_answered member with
              earlier | ⟨rfl, answered⟩
            · rcases ih ⟨stored, earlier⟩ with
                ⟨front, back, first, rfl, uncleared, answered⟩
              exact ⟨front, back ++ [.fetch other], first, by simp, by simpa using uncleared,
                answered⟩
            · exact ⟨steps, [], stored, rfl, List.not_mem_nil, answered⟩
  · rintro ⟨front, back, stored, rfl, uncleared, answered⟩
    rw [run_append, run_cons]
    have fetched := (store.run front).fetching request
    rw [answered] at fetched
    exact ⟨stored, mem_run_of_mem uncleared fetched.mem_of_ok⟩

/-- The requests under which a coherent store holds formatters are as many as
these. -/
theorem Coherent.encard_requests
    {store : FormatterStore}
    (coherent : Coherent store) :
    {request | ∃ stored, (request, stored) ∈ store.entries}.encard = store.size := by
  have listed : {request | ∃ stored, (request, stored) ∈ store.entries} =
      ((store.entries.map Prod.fst).toFinset : Set Request) := by
    ext request
    simp
  rw [listed, Set.encard_coe_eq_coe_finsetCard, List.toFinset_card_of_nodup coherent.requests,
    List.length_map]
  rfl

/-- What a store held before it was cleared has a lower number than anything
that it holds behind that. -/
theorem number_lt_of_clear
    {store : FormatterStore}
    (coherent : Coherent store)
    {steps : List StoreStep}
    (cleared : .clear ∈ steps)
    {earlier later : Request × StoredFormatter}
    (before : earlier ∈ store.entries)
    (behind : later ∈ (store.run steps).entries) :
    earlier.2.number < later.2.number := by
  rcases List.append_of_mem cleared with
    ⟨front, back, rfl⟩
  rw [run_append, run_cons] at behind
  calc
    earlier.2.number < store.built := coherent.counted earlier before
    _ ≤ (store.run front).built := store.built_le_run front
    _ ≤ later.2.number := ((numbersFrom_clear (store.run front)).run back).held later behind

/-- Until the store is cleared, a request is answered with the same formatter again. -/
theorem answer_again
    {store : FormatterStore}
    (coherent : Coherent store)
    {middle : List StoreStep}
    (uncleared : .clear ∉ middle)
    {request : Request}
    {stored : StoredFormatter}
    (answered : store.answer request = .ok stored) :
    (store.run (.fetch request :: middle)).answer request = .ok stored := by
  have fetched := store.fetching request
  rw [answered] at fetched
  have held := mem_run_of_mem uncleared fetched.mem_of_ok
  have requests := ((fetched.coherent coherent).run middle).requests
  have again := ((store.step (.fetch request)).run middle).fetching request
  rw [run_cons]
  generalize ((store.step (.fetch request)).run middle).answer request = answeredAgain at again
  generalize ((store.step (.fetch request)).run middle).step (.fetch request) = after at again
  have present : ((store.step (.fetch request)).run middle).entries.lookup request ≠ none := by
    intro absent
    have other := List.lookup_eq_none_iff.mp absent _ held
    simp at other
  cases again with
  | failed absent refused => exact absurd absent present
  | built absent created => exact absurd absent present
  | found same =>
      have one := List.inj_on_of_nodup_map requests (Table.mem_of_lookup same) held rfl
      rw [(Prod.mk.inj one).2]

/-- Two answers in a run have one number if and only if the requests are equal
and the store was not cleared in between. -/
theorem number_eq_iff
    {store : FormatterStore}
    (coherent : Coherent store)
    {middle : List StoreStep}
    {first second : Request}
    {earlier later : StoredFormatter}
    (answeredFirst : store.answer first = .ok earlier)
    (answeredSecond : (store.run (.fetch first :: middle)).answer second = .ok later) :
    earlier.number = later.number ↔ first = second ∧ .clear ∉ middle := by
  constructor
  · intro same
    have fetchedFirst := store.fetching first
    rw [answeredFirst] at fetchedFirst
    have fetchedSecond := (store.run (.fetch first :: middle)).fetching second
    rw [answeredSecond, run_cons] at fetchedSecond
    have coherentFirst := fetchedFirst.coherent coherent
    have uncleared : .clear ∉ middle := by
      intro cleared
      have behind : (second, later) ∈
          ((store.step (.fetch first)).run (middle ++ [.fetch second])).entries := by
        rw [run_append]
        exact fetchedSecond.mem_of_ok
      have before : earlier.number < later.number :=
        number_lt_of_clear coherentFirst (List.mem_append_left _ cleared)
          fetchedFirst.mem_of_ok behind
      exact absurd same (Nat.ne_of_lt before)
    have kept := fetchedSecond.mem_of_mem (mem_run_of_mem uncleared fetchedFirst.mem_of_ok)
    have numbers := (fetchedSecond.coherent (coherentFirst.run middle)).numbers
    have one := List.inj_on_of_nodup_map numbers kept fetchedSecond.mem_of_ok same
    exact ⟨congrArg Prod.fst one, uncleared⟩
  · rintro ⟨rfl, uncleared⟩
    rw [answer_again coherent uncleared answeredFirst] at answeredSecond
    rw [Except.ok.inj answeredSecond]

end FormatterStore

/-- In every run of a store from its beginning, two answers are one formatter if
and only if they were asked for by the same request and the store was not
cleared in between; a failure leaves the store as it is; and the size of the
store is the number of requests that were answered since it was cleared. -/
theorem formatterStore_shares (settings : FormatterSettings) :
    (∀ front middle first second earlier later,
      (FormatterStore.run { settings } front).answer first = .ok earlier →
        (FormatterStore.run { settings } (front ++ .fetch first :: middle)).answer second =
            .ok later →
          (earlier.number = later.number ↔ first = second ∧ .clear ∉ middle) ∧
            (earlier.number = later.number → earlier = later)) ∧
    (∀ steps request failure,
      (FormatterStore.run { settings } steps).answer request = .error failure →
        (FormatterStore.run { settings } (steps ++ [.fetch request])).entries =
          (FormatterStore.run { settings } steps).entries) ∧
    ∀ steps,
      ((FormatterStore.run { settings } steps).size : ENat) =
          {request | FormatterStore.FetchedSinceClear { settings } steps request}.encard ∧
        ((FormatterStore.run { settings } steps).isEmpty = true ↔
          (FormatterStore.run { settings } steps).size = 0) := by
  have coherent (steps : List StoreStep) :
      (FormatterStore.run { settings } steps).Coherent :=
    (FormatterStore.coherent_of_no_entries rfl).run steps
  refine ⟨?_, ?_, ?_⟩
  · intro front middle first second earlier later answeredFirst answeredSecond
    rw [FormatterStore.run_append] at answeredSecond
    have shared := FormatterStore.number_eq_iff (coherent front) answeredFirst answeredSecond
    refine ⟨shared, ?_⟩
    intro same
    rcases shared.mp same with
      ⟨rfl, uncleared⟩
    rw [FormatterStore.answer_again (coherent front) uncleared answeredFirst] at answeredSecond
    exact Except.ok.inj answeredSecond
  · intro steps request failure refused
    have fetched := (FormatterStore.run { settings } steps).fetching request
    rw [refused] at fetched
    rw [FormatterStore.run_append]
    exact fetched.entries_of_error
  · intro steps
    constructor
    · have held (request : Request) :
          (∃ stored, (request, stored) ∈ (FormatterStore.run { settings } steps).entries) ↔
            FormatterStore.FetchedSinceClear { settings } steps request :=
        FormatterStore.exists_mem_run_iff rfl
      simp only [← (coherent steps).encard_requests, held]
    · simp [FormatterStore.isEmpty]

/-- A request for a text that needs no values. -/
def plainRequest : Request where
  source := .tree [.literal "foo"]
  locales := ["fr"]
  sheet := {}

/-- A request for a select that lacks a branch. -/
def branchlessRequest : Request where
  source := .tree [.select "g" [("male", [])]]
  locales := []
  sheet := {}

/-- Behind a clearing, the same request is answered with another formatter. -/
theorem formatterStore_shares_plainRequest :
    ∃ earlier later,
      (FormatterStore.run { settings := {} } []).answer plainRequest = .ok earlier ∧
        (FormatterStore.run { settings := {} }
            [.fetch plainRequest, .clear, .fetch branchlessRequest]).answer plainRequest =
          .ok later ∧
        earlier.number = 0 ∧ later.number = 1 ∧
        (earlier.number = later.number ↔
          plainRequest = plainRequest ∧
            StoreStep.clear ∉ [.clear, .fetch branchlessRequest]) := by
  obtain ⟨earlier, answeredFirst, zero⟩ : ∃ earlier,
      (FormatterStore.run { settings := {} } []).answer plainRequest = .ok earlier ∧
        earlier.number = 0 :=
    ⟨_, rfl, rfl⟩
  obtain ⟨later, answeredSecond, one⟩ : ∃ later,
      (FormatterStore.run { settings := {} }
          [.fetch plainRequest, .clear, .fetch branchlessRequest]).answer plainRequest =
        .ok later ∧ later.number = 1 :=
    ⟨_, rfl, rfl⟩
  refine ⟨earlier, later, answeredFirst, answeredSecond, zero, one, ?_⟩
  exact ((formatterStore_shares {}).1 [] [.clear, .fetch branchlessRequest] plainRequest
    plainRequest earlier later answeredFirst answeredSecond).1

/-- In every run of a store from its beginning, a request is answered as a
formatter that is built for it anew: with the same failure, or with a formatter
of the same locale that writes the same for all values. -/
theorem formatterStore_answers_like_create
    (settings : FormatterSettings)
    (steps : List StoreStep)
    (request : Request) :
    ((FormatterStore.run { settings } steps).answer request).map StoredFormatter.formatter =
        (Formatter.create request.source request.locales request.sheet settings).outcome ∧
      ∀ stored fresh,
        (FormatterStore.run { settings } steps).answer request = .ok stored →
          (Formatter.create request.source request.locales request.sheet settings).outcome =
              .ok fresh →
            stored.formatter.locale = fresh.locale ∧
              ∀ values,
                stored.formatter.formatToParts values = fresh.formatToParts values ∧
                  stored.formatter.format values = fresh.format values := by
  have coherent : (FormatterStore.run { settings } steps).Coherent :=
    (FormatterStore.coherent_of_no_entries rfl).run steps
  have same :=
    ((FormatterStore.run { settings } steps).fetching request).answered_eq_build coherent
  rw [FormatterStore.build, FormatterStore.settings_run] at same
  refine ⟨same, ?_⟩
  intro stored fresh answered created
  rw [answered, created] at same
  rw [← Except.ok.inj same]
  exact ⟨rfl, fun values => ⟨rfl, rfl⟩⟩

/-- A formatter that the store has kept through a failure is as good as a new one. -/
theorem formatterStore_answers_like_create_plainRequest :
    ∃ stored fresh,
      (FormatterStore.run { settings := {} }
          [.fetch plainRequest, .fetch branchlessRequest]).answer plainRequest = .ok stored ∧
        (Formatter.create plainRequest.source plainRequest.locales plainRequest.sheet {}).outcome =
          .ok fresh ∧
        stored.number = 0 ∧ stored.formatter.locale = fresh.locale ∧
        ∀ values,
          stored.formatter.formatToParts values = fresh.formatToParts values ∧
            stored.formatter.format values = fresh.format values := by
  obtain ⟨stored, first, zero⟩ : ∃ stored,
      FormatterStore.answer { settings := {} } plainRequest = .ok stored ∧ stored.number = 0 :=
    ⟨_, rfl, rfl⟩
  have answered := FormatterStore.answer_again (FormatterStore.coherent_of_no_entries rfl)
    (by simp : StoreStep.clear ∉ [.fetch branchlessRequest]) first
  obtain ⟨fresh, created⟩ : ∃ fresh,
      (Formatter.create plainRequest.source plainRequest.locales plainRequest.sheet {}).outcome =
        .ok fresh :=
    ⟨_, rfl⟩
  have alike := (formatterStore_answers_like_create {} [.fetch plainRequest,
    .fetch branchlessRequest] plainRequest).2 stored fresh answered created
  exact ⟨stored, fresh, answered, created, zero, alike⟩

end IcuMessage
