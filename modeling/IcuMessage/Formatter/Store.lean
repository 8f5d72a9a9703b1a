import IcuMessage.Formatter.Basic

/-!
# Stores of formatters

A store builds a formatter once for each request, and hands it out again when
the same source, list of locales and style sheet are asked for once more.  The
formatters are numbered in the order in which they were built, so that two
answers can be told to be the same one.  What fails to be built is not kept.
-/

namespace IcuMessage

/-- What a formatter is asked for, and kept under. -/
structure Request where
  source : Source
  locales : List String
  sheet : StyleSheet
deriving DecidableEq

/-- A formatter with the number under which it was built. -/
structure StoredFormatter where
  number : Nat
  formatter : Formatter

/-- The formatters that have been built, by their requests. -/
structure FormatterStore where
  settings : FormatterSettings
  entries : List (Request × StoredFormatter) := []
  /-- The number of formatters that the store has ever built. -/
  built : Nat := 0

namespace FormatterStore

/-- The number of formatters in the store. -/
def size (store : FormatterStore) : Nat :=
  store.entries.length

/-- The store holds no formatter. -/
def isEmpty (store : FormatterStore) : Bool :=
  store.size == 0

/-- Build the formatter of a request. -/
def build (store : FormatterStore) (request : Request) : Traced Formatter :=
  Formatter.create request.source request.locales request.sheet store.settings

/-- Keep a formatter under a request. -/
def keep (store : FormatterStore) (request : Request) (formatter : Formatter) :
    FormatterStore :=
  { store with
    entries := (request, ⟨store.built, formatter⟩) :: store.entries
    built := store.built + 1 }

/-- The formatter of a request, which is built and kept if there is none. -/
def fetch (store : FormatterStore) (request : Request) :
    FormatterStore × Traced StoredFormatter :=
  match store.entries.lookup request with
  | some stored => (store, pure stored)
  | none =>
      let attempt := store.build request
      match attempt.outcome with
      | .error error => (store, ⟨attempt.events, .error error⟩)
      | .ok formatter =>
          (store.keep request formatter,
            ⟨attempt.events ++ [.formatterStored request.locales (store.size + 1)],
              .ok ⟨store.built, formatter⟩⟩)

/-- Let go of all formatters. -/
def clear (store : FormatterStore) : FormatterStore :=
  { store with entries := [] }

@[simp]
theorem size_clear (store : FormatterStore) : store.clear.size = 0 := rfl

@[simp]
theorem size_keep (store : FormatterStore) (request : Request) (formatter : Formatter) :
    (store.keep request formatter).size = store.size + 1 := rfl

end FormatterStore

end IcuMessage
