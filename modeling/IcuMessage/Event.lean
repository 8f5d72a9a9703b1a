import IcuMessage.Decimal.Shortest
import IcuMessage.Failure
import IcuMessage.Locale.Tag
import IcuMessage.Message.Printer
import IcuMessage.Text.Quoted

/-!
# Events

What the library reports while it works: which locales it passes over, which
formatters it builds and keeps, and which branches it takes.  An event has a
level, a message and fields, all of them text.
-/

namespace IcuMessage

/-- Something worth reporting. -/
inductive Event where
  /-- A requested locale cannot be used. -/
  | localeIgnored (requested : String) (error : Failure)
  /-- A formatter was built, with a number of top-level nodes and of different styles. -/
  | formatterCreated (locale : LocaleTag) (nodes styles : Nat)
  /-- A new formatter went into a store, which now holds so many. -/
  | formatterStored (locales : List String) (stored : Nat)
  /-- A plural took the branch of an integer. -/
  | exactBranch (name : String) (value : Int64)
  /-- A plural sorted its number into a category. -/
  | categoryBranch (name : String) (value : Float) (category : PluralCategory)
      (rule : PluralRule)
  /-- A select found a branch for a key. -/
  | selectBranch (name : String) (key : String)
deriving Repr

/-- How important an event is. -/
inductive Level where
  | warn
  | debug
  | trace
deriving DecidableEq, Repr

/-- The word for a level. -/
def Level.word : Level → String
  | .warn => "WARN"
  | .debug => "DEBUG"
  | .trace => "TRACE"

/-- The name of a rule in events. -/
def PluralRule.title : PluralRule → String
  | .cardinal => "Cardinal"
  | .ordinal => "Ordinal"

namespace Event

/-- The level of an event. -/
def level : Event → Level
  | .localeIgnored _ _ => .warn
  | .formatterCreated _ _ _ | .formatterStored _ _ => .debug
  | .exactBranch _ _ | .categoryBranch _ _ _ _ | .selectBranch _ _ => .trace

/-- The message of an event. -/
def message : Event → String
  | .localeIgnored _ _ => "ignoring requested locale"
  | .formatterCreated _ _ _ => "message format created"
  | .formatterStored _ _ => "cached new message format"
  | .exactBranch _ _ => "exact plural match"
  | .categoryBranch _ _ _ _ => "plural category"
  | .selectBranch _ _ => "select branch"

/-- What an event is about. -/
def details : Event → List (String × String)
  | .localeIgnored requested error => [("requested", requested), ("error", error.text)]
  | .formatterCreated locale nodes styles =>
      [("locale", locale.write), ("nodes", Nat.repr nodes), ("styles", Nat.repr styles)]
  | .formatterStored locales stored =>
      [("locales", Text.quoteAll locales), ("cached", Nat.repr stored)]
  | .exactBranch name value =>
      [("name", name), ("exact", String.ofList (Text.writeInt64 value))]
  | .categoryBranch name value category rule =>
      [("name", name), ("value", writeFloat value), ("category", category.word),
        ("rule_type", rule.title)]
  | .selectBranch name key => [("name", name), ("key", key)]

/-- The fields of an event, its message among them. -/
def fields (event : Event) : List (String × String) :=
  ("message", event.message) :: event.details

end Event

end IcuMessage
