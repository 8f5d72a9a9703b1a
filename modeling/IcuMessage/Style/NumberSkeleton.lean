import IcuMessage.Failure
import IcuMessage.Style.Options
import IcuMessage.Text.Blank
import IcuMessage.Text.Prefix

/-!
# Number skeletons

A number skeleton is a list of tokens with blanks between them, which may
start with pairs of colons.  Each token settles some options, and a later
token overrules an earlier one.  The first token that is none of those below
is the one that the error names.
-/

namespace IcuMessage.NumberSkeleton

/-- The number of zeros in a non-empty text of at most 255 zeros. -/
def zeros? (text : List Char) : Option UInt8 :=
  if text.isEmpty || !text.all (· == '0') || 255 < text.length then none
  else some (UInt8.ofNat text.length)

/-- The digits that a fraction precision requires and allows: zeros for the
required ones and then number signs for the optional ones, at most 255. -/
def precision? (text : List Char) : Option (UInt8 × UInt8) :=
  let required := text.takeWhile (· == '0')
  let rest := text.dropWhile (· == '0')
  if !rest.all (· == '#') || 255 < text.length then none
  else some (UInt8.ofNat required.length, UInt8.ofNat text.length)

/-- The tokens that are fixed words, and what they settle. -/
def keywords : List (String × NumberOptions) :=
  [("percent", { style := some .percent }),
    ("%", { style := some .percent }),
    ("group-off", { useGrouping := some false }),
    (",_", { useGrouping := some false }),
    ("group-auto", { useGrouping := some true }),
    ("precision-integer", { maximumFractionDigits := some 0 }),
    ("sign-auto", { signDisplay := some .auto }),
    ("sign-always", { signDisplay := some .always }),
    ("+!", { signDisplay := some .always }),
    ("sign-never", { signDisplay := some .never }),
    ("+_", { signDisplay := some .never }),
    ("sign-except-zero", { signDisplay := some .exceptZero }),
    ("+?", { signDisplay := some .exceptZero })]

/-- What the code behind `currency/` settles: three ASCII letters of any case. -/
def currency? (code : List Char) : Option NumberOptions :=
  if code.length = 3 ∧ code.all Char.isAlpha then
    some { style := some .currency, currency := some (String.ofList (code.map Char.toUpper)) }
  else none

/-- What the digits behind a full stop settle. -/
def fraction? (text : List Char) : Option NumberOptions :=
  (precision? text).map fun (least, greatest) =>
    { minimumFractionDigits := some least, maximumFractionDigits := some greatest }

/-- What a number of integer digits settles. -/
def integerWidth? (text : List Char) : Option NumberOptions :=
  (zeros? text).map fun digits => { minimumIntegerDigits := some digits }

/-- What a token settles, if it is one. -/
def token? (token : List Char) : Option NumberOptions :=
  match keywords.lookup (String.ofList token) with
  | some options => some options
  | none =>
      match Text.afterPrefix? "currency/".toList token with
      | some code => currency? code
      | none =>
          match token with
          | '.' :: digits => fraction? digits
          | _ =>
              match Text.afterPrefix? "integer-width/".toList token with
              | some width => integerWidth? (width.dropWhile fun c => c == '*' || c == '+')
              | none => integerWidth? token

/-- The option set of tokens that come after those of a given set. -/
def readTokens (options : NumberOptions) :
    List (List Char) → Except Failure NumberOptions
  | [] => .ok options
  | token :: rest =>
      match token? token with
      | some settled => readTokens (options.overlay settled) rest
      | none => .error (.invalidSkeleton (String.ofList token))

/-- The tokens of a skeleton. -/
def tokens (skeleton : String) : List (List Char) :=
  Text.words (Text.dropPairs ':' ':' (Text.trim skeleton.toList))

/-- The option set of a skeleton. -/
def read (skeleton : String) : Except Failure NumberOptions :=
  readTokens {} (tokens skeleton)

end IcuMessage.NumberSkeleton
