import IcuMessage.Message.PluralKey
import IcuMessage.Pattern.Header
import IcuMessage.Pattern.Masking
import IcuMessage.Pattern.Nest
import IcuMessage.Pattern.TagTree

/-!
# Parsing patterns

A pattern is masked, its braces are nested, and the nests are read as a
message.  The text between blocks holds number signs, which count below a
plural only, and tags, which count unless they are to be ignored.  A block is
an argument: a plain or formatted value, or a plural or select with options.

All errors of the blocks of a message come before the errors of its tags.
Offsets are those of the masked text until `parse` takes them to the pattern.
-/

namespace IcuMessage

/-- What the reading of a masked text depends on. -/
structure ParseContext where
  /-- The quoted sections that the markers stand for. -/
  quotes : List (List Char)
  /-- Tags are literal text. -/
  ignoreTags : Bool

namespace ParseContext

/-- The text that a part of the masked text stands for. -/
def unmasked (context : ParseContext) (text : List Char) : String :=
  String.ofList (unmask context.quotes text)

/-- The literal of a stretch that is given in reverse; none if it is empty. -/
def literalTokens (context : ParseContext) (pending : List Char) : List Token :=
  if pending.isEmpty then [] else [.node (.literal (context.unmasked pending.reverse))]

/-- The tokens of text from a byte offset on, where `done` characters belong
to the last token and `pending` holds the open literal in reverse. -/
def textTokens (context : ParseContext) (inPlural : Bool) (done : Nat)
    (pending : List Char) (offset : Nat) : List Char → List Token
  | [] => context.literalTokens pending
  | character :: rest =>
      let next := offset + character.utf8Size
      match done with
      | done + 1 => context.textTokens inPlural done pending next rest
      | 0 =>
          if character = '#' ∧ inPlural then
            context.literalTokens pending ++
              .node .pound :: context.textTokens inPlural 0 [] next rest
          else
            match if context.ignoreTags then none else Tag.read? (character :: rest) with
            | some tag =>
                context.literalTokens pending ++
                  tag.token offset :: context.textTokens inPlural (tag.length - 1) [] next rest
            | none => context.textTokens inPlural 0 (character :: pending) next rest

/-- The style behind the second comma of an argument, at a byte offset. -/
def style (context : ParseContext) (text : List Char) (offset : Nat) :
    Except PatternError Style :=
  let restored := unmask context.quotes (Text.trim text)
  if restored.isEmpty then .error ⟨.emptyStyle, offset⟩
  else match Text.afterPrefix? [':', ':'] restored with
    | some skeleton => .ok (.skeleton (String.ofList (Text.trim skeleton)))
    | none => .ok (.named (String.ofList restored))

/-- The key of an option and its byte offset, in the text that stands before
the block of the option and starts at `start`.  Blank text has no key. -/
def optionKey? (context : ParseContext) (text : List Char) (start : Nat) :
    Except PatternError (Option (String × Nat)) :=
  let key := Text.trim text
  if key.isEmpty then .ok none
  else if Text.hasBlank key then .error ⟨.invalidKey (String.ofList key), start⟩
  else
    let blanks := Text.byteWidth text - Text.byteWidth (Text.trimStart text)
    .ok (some (context.unmasked key, start + blanks))

/-- A formatted argument of a kind that stands at a byte offset. -/
def formatted (name kind : List Char) (kindOffset : Nat) (style : Option Style) :
    Except PatternError Node :=
  match Category.ofWord? (String.ofList kind) with
  | some category => .ok (.formatted category (String.ofList name) style)
  | none => .error ⟨.unsupportedKind (String.ofList kind), kindOffset⟩

end ParseContext

/-- The rule that the kind of a plural argument names. -/
def PluralRule.ofKind? (kind : List Char) : Option PluralRule :=
  if kind = "plural".toList then some .cardinal
  else if kind = "selectordinal".toList then some .ordinal
  else none

/-- The offset of a plural, and the text of its options with their byte offset.
`text` stands behind the second comma at the byte offset `start`. -/
def pluralOffset (text : List Char) (start : Nat) :
    Except PatternError (Int64 × List Char × Nat) :=
  match Header.offsetClause? text with
  | none => .ok (0, text, start)
  | some (digits, rest) =>
      let finish := start + (Text.byteWidth text - Text.byteWidth rest)
      match Text.readInt64? digits with
      | some offset => .ok (offset, rest, finish)
      | none => .error ⟨.offsetOutOfRange, finish - Text.byteWidth digits⟩

/-- An option of a plural or select argument. -/
structure ParsedOption where
  key : String
  body : Message
  keyOffset : Nat
deriving DecidableEq, Repr

/-- The branches of a plural argument that starts at a byte offset. -/
def pluralBranches (name : String) (start : Nat) (options : List ParsedOption) :
    Except PatternError (List (PluralKey × Message)) := do
  let branches ← options.foldlM
    (fun table option =>
      match PluralKey.read option.key with
      | .ok key => Except.ok (Table.insert key option.body table)
      | .error fault => Except.error ⟨fault, option.keyOffset⟩)
    ([] : List (PluralKey × Message))
  if (branches.lookup .other).isSome then .ok branches
  else .error ⟨.missingOther name, start⟩

/-- The branches of a select argument that starts at a byte offset. -/
def selectBranches (name : String) (start : Nat) (options : List ParsedOption) :
    Except PatternError (List (String × Message)) :=
  let branches := Table.ofList (options.map fun option => (option.key, option.body))
  if (branches.lookup otherKey).isSome then .ok branches
  else .error ⟨.missingOther name, start⟩

/-- At least one option, all of whose text starts at a byte offset. -/
def requireOption (start : Nat) (options : List ParsedOption) :
    Except PatternError (List ParsedOption) :=
  if options.isEmpty then .error ⟨.noOption, start⟩ else .ok options

mutual

/-- The tokens of a message. -/
def messageTokens (context : ParseContext) (inPlural : Bool) :
    List Nest → Except PatternError (List Token)
  | [] => .ok []
  | nest :: rest => do
      let tokens ← nestTokens context inPlural nest
      let later ← messageTokens context inPlural rest
      .ok (tokens ++ later)

/-- The tokens of a stretch of text, or the argument of a block. -/
def nestTokens (context : ParseContext) (inPlural : Bool) :
    Nest → Except PatternError (List Token)
  | .text content offset => .ok (context.textTokens inPlural 0 [] offset content)
  | .block children offset => do
      let node ← argument context inPlural offset children
      .ok [.node node]

/-- The argument of a block whose content starts at a byte offset. -/
def argument (context : ParseContext) (inPlural : Bool) (start : Nat) :
    List Nest → Except PatternError Node
  | [] => .error ⟨.invalidPlaceholder "", start⟩
  | first :: rest =>
      let invalid : Except PatternError Node :=
        .error ⟨.invalidPlaceholder (context.unmasked (Nest.sourceList (first :: rest))), start⟩
      match first with
      | .block _ _ => invalid
      | .text content _ =>
          match Header.read? content with
          | none => invalid
          | some (.bare name) =>
              if rest.isEmpty then .ok (.argument (String.ofList name)) else invalid
          | some (.kind name kind kindOffset) =>
              if rest.isEmpty then ParseContext.formatted name kind (start + kindOffset) none
              else invalid
          | some (.openEnded name kind kindOffset tail) =>
              let tailStart := start + (Text.byteWidth content - Text.byteWidth tail)
              match PluralRule.ofKind? kind with
              | some rule => do
                  let (offset, text, textStart) ← pluralOffset tail tailStart
                  let options ← argumentOptions context true [] text textStart rest
                  let options ← requireOption textStart options
                  let branches ← pluralBranches (String.ofList name) start options
                  .ok (.plural (String.ofList name) rule offset branches)
              | none =>
                  if kind = "select".toList then do
                    let options ← argumentOptions context inPlural [] tail tailStart rest
                    let options ← requireOption tailStart options
                    let branches ← selectBranches (String.ofList name) start options
                    .ok (.select (String.ofList name) branches)
                  else do
                    let style ← context.style (tail ++ Nest.sourceList rest) tailStart
                    ParseContext.formatted name kind (start + kindOffset) (some style)

/-- The options that follow the keys already seen.  `pending` is the text
before the next block and starts at the byte offset `start`. -/
def argumentOptions (context : ParseContext) (inPlural : Bool) (seen : List String)
    (pending : List Char) (start : Nat) :
    List Nest → Except PatternError (List ParsedOption)
  | [] =>
      match context.optionKey? pending start with
      | .error error => .error error
      | .ok none => .ok []
      | .ok (some (key, keyOffset)) => .error ⟨.missingMessage key, keyOffset⟩
  | nest :: rest =>
      match nest with
      | .text content offset => argumentOptions context inPlural seen content offset rest
      | .block _ offset =>
          match context.optionKey? pending start with
          | .error error => .error error
          | .ok none => .error ⟨.missingKey, if pending.isEmpty then offset else start⟩
          | .ok (some (key, keyOffset)) =>
              if seen.contains key then .error ⟨.duplicateOption key, keyOffset⟩
              else do
                let tokens ← bodyTokens context inPlural nest
                let body ← assemble tokens
                let later ← argumentOptions context inPlural (key :: seen) [] 0 rest
                .ok (⟨key, body, keyOffset⟩ :: later)

/-- The tokens of the message in the block of an option. -/
def bodyTokens (context : ParseContext) (inPlural : Bool) :
    Nest → Except PatternError (List Token)
  | .text _ _ => .ok []
  | .block children _ => messageTokens context inPlural children

end

/-- The message of nests. -/
def messageOfNests (context : ParseContext) (inPlural : Bool) (nests : List Nest) :
    Except PatternError Message := do
  let tokens ← messageTokens context inPlural nests
  assemble tokens

/-- The message of a masked text whose first character has a byte offset. -/
def messageOfText (context : ParseContext) (inPlural : Bool) (text : List Char) (base : Nat) :
    Except PatternError Message := do
  let nests ← Nest.read text base
  messageOfNests context inPlural nests

/-- The message of a pattern; tags may be ignored, and are then literal text. -/
def parse (ignoreTags : Bool) (pattern : String) : Except PatternError Message :=
  let masked := Masked.ofPattern pattern.toList
  (messageOfText ⟨masked.quotes, ignoreTags⟩ false masked.text 0).mapError fun error =>
    { error with offset := masked.unmaskedOffset error.offset }

end IcuMessage
