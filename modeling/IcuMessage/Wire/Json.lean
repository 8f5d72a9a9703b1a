/-!
# JSON values

The values in which messages and option sets travel between programs.
-/

namespace IcuMessage

/-- A JSON value.  The entries of an object have different keys. -/
inductive Json where
  | null
  | boolean (value : Bool)
  /-- A number without a fraction. -/
  | integer (value : Int)
  /-- A number with a fraction: the mantissa over a power of ten. -/
  | fraction (mantissa : Int) (exponent : Nat)
  | text (value : String)
  | array (items : List Json)
  | object (entries : List (String × Json))
deriving Inhabited, Repr

namespace Json

/-- The text of a value that is one. -/
def text? : Json → Option String
  | .text value => some value
  | _ => none

/-- The truth value of a value that is one. -/
def boolean? : Json → Option Bool
  | .boolean value => some value
  | _ => none

/-- The integer of a value that is one. -/
def integer? : Json → Option Int
  | .integer value => some value
  | _ => none

/-- Read an entry that may be missing: it has a default then. -/
def entryOr {α : Type} (default : α) (read? : Json → Option α)
    (key : String) (entries : List (String × Json)) : Option α :=
  match entries.lookup key with
  | none => some default
  | some value => read? value

/-- Read an entry that has to be there. -/
def entry? {α : Type} (read? : Json → Option α)
    (key : String) (entries : List (String × Json)) : Option α :=
  (entries.lookup key).bind read?

/-- Read a value, with `null` for none. -/
def nullable {α : Type} (read? : Json → Option α) : Json → Option (Option α)
  | .null => some none
  | value => (read? value).map some

/-- Write a value, with `null` for none. -/
def ofOption {α : Type} (write : α → Json) : Option α → Json
  | none => .null
  | some value => write value

end Json

end IcuMessage
