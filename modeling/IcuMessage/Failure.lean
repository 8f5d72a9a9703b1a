import IcuMessage.Message.Basic

/-!
# Failures

Everything that can go wrong, as causes.  `PatternFault` says what is wrong
with a pattern, `PatternError` adds the byte of the pattern at which it is
wrong, and `Failure` covers the building and the evaluation of a message.
The `text` functions give the wording of each cause.
-/

namespace IcuMessage

/-- What is wrong with a pattern. -/
inductive PatternFault where
  | unmatchedBrace
  | unclosedBrace
  | unmatchedClosingTag (name : String)
  | mismatchedClosingTag (closing : String) (opened : String)
  | unclosedTag (name : String)
  | invalidPlaceholder (source : String)
  | emptyStyle
  | unsupportedKind (kind : String)
  | offsetOutOfRange
  | missingOther (name : String)
  | missingKey
  | invalidKey (key : String)
  | missingMessage (key : String)
  | duplicateOption (key : String)
  | noOption
  | invalidExactKey (key : String)
  | invalidCategoryKey (key : String)
deriving DecidableEq, Repr

/-- The wording of a fault. -/
def PatternFault.text : PatternFault → String
  | .unmatchedBrace => "unmatched '\x7d'"
  | .unclosedBrace => "unclosed '\x7b'"
  | .unmatchedClosingTag name => "unmatched closing tag '</" ++ name ++ ">'"
  | .mismatchedClosingTag closing opened =>
      "closing tag '</" ++ closing ++ ">' does not match '<" ++ opened ++ ">'"
  | .unclosedTag name => "unclosed tag '<" ++ name ++ ">'"
  | .invalidPlaceholder source => "invalid placeholder '\x7b" ++ source ++ "\x7d'"
  | .emptyStyle => "empty format style"
  | .unsupportedKind kind => "unsupported argument type '" ++ kind ++ "'"
  | .offsetOutOfRange => "plural offset out of range"
  | .missingOther name => "missing 'other' option in '" ++ name ++ "'"
  | .missingKey => "missing option key"
  | .invalidKey key => "invalid option key '" ++ key ++ "'"
  | .missingMessage key => "missing message for option '" ++ key ++ "'"
  | .duplicateOption key => "duplicate option '" ++ key ++ "'"
  | .noOption => "expected at least one option"
  | .invalidExactKey key => "invalid exact plural key '" ++ key ++ "'"
  | .invalidCategoryKey key => "invalid plural category '" ++ key ++ "'"

/-- A fault at a byte of the pattern. -/
structure PatternError where
  fault : PatternFault
  offset : Nat
deriving DecidableEq, Repr

/-- The wording of a fault together with its place. -/
def PatternError.text (error : PatternError) : String :=
  error.fault.text ++ " at byte " ++ Nat.repr error.offset

/-- What a placeholder needs its value to be. -/
inductive Expectation where
  | number
  | string
  | date
deriving DecidableEq, Repr

/-- The wording of an expectation. -/
def Expectation.text : Expectation → String
  | .number => "a number"
  | .string => "a string"
  | .date => "a date"

/-- Why a message could not be built or evaluated. -/
inductive Failure where
  | missingValue (name : String) (pattern : String)
  | unsuitableValue (name : String) (expected : Expectation)
  | invalidSkeleton (token : String)
  | unknownStyle (category : Category) (name : String)
  | missingOther (name : String)
  | poundOutsidePlural
  | unsupportedLocale (tag : String)
  | primitive (category : Category) (reason : String)
  | invalidPattern (error : PatternError)
deriving DecidableEq, Repr

/-- The wording of an error. -/
def Failure.text : Failure → String
  | .missingValue name pattern =>
      "The intl string context variable '" ++ name ++
        "' was not provided to the string '" ++ pattern ++ "'"
  | .unsuitableValue name expected =>
      "The value of '" ++ name ++ "' cannot be used as " ++ expected.text
  | .invalidSkeleton token => "Invalid skeleton token '" ++ token ++ "'"
  | .unknownStyle category name =>
      "Unknown " ++ category.word ++ " format style '" ++ name ++ "'"
  | .missingOther name => "Missing 'other' clause in the options of '" ++ name ++ "'"
  | .poundOutsidePlural => "'#' used outside of a plural or selectordinal branch"
  | .unsupportedLocale tag => "Unsupported locale '" ++ tag ++ "'"
  | .primitive category reason =>
      "Cannot format " ++ category.word ++ " value: " ++ reason
  | .invalidPattern error => "Invalid message pattern: " ++ error.text

end IcuMessage
