import IcuMessage.Decimal.Binary64
import IcuMessage.Decimal.Reading
import IcuMessage.Decimal.Shortest
import IcuMessage.Text.Blank

/-!
# Values

The values that a caller binds to the names of a message, and what a message
can take them for: a number, a point in time, the key of a branch, or plain
text.  `null` and `false` are blank, so that a placeholder for them writes
nothing.
-/

namespace IcuMessage

/-- A value bound to a name. -/
inductive Value where
  | integer (value : Int64)
  | decimal (value : Float)
  | text (value : String)
  | boolean (value : Bool)
  | null
  /-- A point in time, in milliseconds since the beginning of 1970. -/
  | date (millis : Int64)
  /-- An object of the caller, known to the caller by its handle. -/
  | rich (handle : String)
deriving Repr, Inhabited

namespace Value

/-- A number of 32 bits as a value. -/
def ofFloat32 (value : Float32) : Value :=
  .decimal value.toFloat

/-- An optional value, with `null` for none. -/
def ofOption : Option Value → Value
  | some value => value
  | none => .null

/-- The number that a value is or denotes. -/
def number? : Value → Option Float
  | .integer value => some (floatOfInt64 value)
  | .decimal value => some value
  | .text value => readFloat? (Text.trim value.toList)
  | .boolean _ | .null | .date _ | .rich _ => none

/-- The milliseconds since the beginning of 1970 that a value is or denotes.  A
decimal value counts by its whole part, as far as 64 bits reach. -/
def epochMillis? : Value → Option Int64
  | .date millis | .integer millis => some millis
  | .decimal value => (Binary64.ofFloat value).truncated?.map clampInt64
  | .text value => Text.readInt64? (Text.trim value.toList)
  | .boolean _ | .null | .rich _ => none

/-- The handle of a rich value. -/
def handle? : Value → Option String
  | .rich handle => some handle
  | _ => none

/-- The value is written as nothing. -/
def isBlank : Value → Bool
  | .null | .boolean false => true
  | _ => false

/-- The value is a point in time. -/
def isDate : Value → Bool
  | .date _ => true
  | _ => false

/-- The plain text of a value.  The text of a rich value tells no more than
what it is. -/
def write : Value → String
  | .integer value | .date value => String.ofList (Text.writeInt64 value)
  | .decimal value => writeFloat value
  | .text value => value
  | .boolean true => "true"
  | .boolean false => "false"
  | .null => ""
  | .rich _ => "RichValue(*)"

/-- The key of the select branch that a value asks for. -/
def branchKey? : Value → Option String
  | .null => some "null"
  | .rich _ => none
  | value => some value.write

/-- Two decimal values are the same number, or both are none. -/
def sameDecimal (left right : Float) : Bool :=
  left == right || (left.isNaN && right.isNaN)

/-- Two values are of one kind and the same.  Rich values are the same if the
caller knows them by one handle. -/
def same : Value → Value → Bool
  | .integer left, .integer right | .date left, .date right => left == right
  | .decimal left, .decimal right => sameDecimal left right
  | .text left, .text right | .rich left, .rich right => left == right
  | .boolean left, .boolean right => left == right
  | .null, .null => true
  | _, _ => false

instance : BEq Value := ⟨same⟩

end Value

/-- The values of the names of a message. -/
abbrev Bindings := List (String × Value)

end IcuMessage
