import IcuMessage.Formatter.Store
import IcuMessage.Wire.Message
import IcuMessage.Wire.Options
import IcuMessage.Proofs.Decimal.ExactValue
import IcuMessage.Proofs.Evaluation.Coalescing
import IcuMessage.Proofs.Message.Induction
import IcuMessage.Proofs.Outcome
import IcuMessage.Proofs.Plural.Selection
import IcuMessage.Proofs.Evaluation.Lookups
import IcuMessage.Proofs.Evaluation.Gathering
import IcuMessage.Proofs.Evaluation.Meaning
import IcuMessage.Proofs.Pattern.Nesting
import IcuMessage.Proofs.Pattern.Reading
import IcuMessage.Proofs.Message.FreePound
import IcuMessage.Proofs.Message.Validation
import IcuMessage.Proofs.Pattern.PoundScope
import IcuMessage.Proofs.Evaluation.Safety
import IcuMessage.Proofs.Formatter.Safety
import IcuMessage.Proofs.Pattern.Unmasking
import IcuMessage.Proofs.Message.JoinedLiterals
import IcuMessage.Proofs.Message.SpelledTags
import IcuMessage.Proofs.Pattern.TagText
import IcuMessage.Proofs.Pattern.SpelledTags
import IcuMessage.Proofs.Evaluation.SpelledTags
import IcuMessage.Proofs.Formatter.IgnoredTags
import IcuMessage.Proofs.Pattern.Quoting
import IcuMessage.Proofs.Text.Blanks
import IcuMessage.Proofs.Text.Integers
import IcuMessage.Proofs.Pattern.Headers
import IcuMessage.Proofs.Message.Printable
import IcuMessage.Proofs.Pattern.PrintedArguments
import IcuMessage.Proofs.Pattern.Continuation
import IcuMessage.Proofs.Message.OrderedTables
import IcuMessage.Proofs.Pattern.TagPairing
import IcuMessage.Proofs.Pattern.PrintedText
import IcuMessage.Proofs.Pattern.PrintedOptions
import IcuMessage.Proofs.Pattern.RoundTrip
import IcuMessage.Proofs.Formatter.StoreRuns
import IcuMessage.Proofs.Pattern.Places
import IcuMessage.Proofs.Pattern.HeaderText
import IcuMessage.Proofs.Pattern.ErrorPlaces
import IcuMessage.Proofs.Pattern.WellFormed
import IcuMessage.Proofs.Pattern.QuotingRule
import IcuMessage.Proofs.Pattern.Braces
import IcuMessage.Proofs.Pattern.BraceFaults
import IcuMessage.Proofs.Pattern.BraceErrors
import IcuMessage.Proofs.Wire.Alike
import IcuMessage.Proofs.Wire.Branches
import IcuMessage.Proofs.Wire.Reading
import IcuMessage.Proofs.Wire.Ordering
import IcuMessage.Proofs.Wire.Rewriting
import IcuMessage.Proofs.Evaluation.HandedParts
import IcuMessage.Proofs.Evaluation.RichValues
import IcuMessage.Proofs.Formatter.PartsInForm
import IcuMessage.Proofs.Evaluation.Dependence
import IcuMessage.Proofs.Formatter.Dependence
import IcuMessage.Proofs.Style.Memo
import IcuMessage.Proofs.Evaluation.StyleRequests
import IcuMessage.Proofs.Message.Walk
import IcuMessage.Proofs.Message.Soundness
import IcuMessage.Proofs.Formatter.Construction
import IcuMessage.Proofs.Evaluation.Untagged
import IcuMessage.Proofs.Pattern.Relocation
import IcuMessage.Proofs.Pattern.MessageInSelect
import IcuMessage.Proofs.Evaluation.SameGathering
import IcuMessage.Proofs.Pattern.TagNesting
import IcuMessage.Proofs.Pattern.TagMarks
import IcuMessage.Proofs.Style.FractionDigits
import IcuMessage.Proofs.Pattern.QuotedText
import IcuMessage.Proofs.Pattern.SourceBlocks
import IcuMessage.Proofs.Pattern.WrittenOptions
import IcuMessage.Proofs.Style.Layering
import IcuMessage.Proofs.Style.NumberTokens
import IcuMessage.Proofs.Style.DateTimeRuns
import IcuMessage.Proofs.Decimal.Arithmetic
import IcuMessage.Proofs.Evaluation.ExactKeys
import IcuMessage.Proofs.Number.Rendering
import IcuMessage.Proofs.Pattern.Lookalikes
import IcuMessage.Proofs.Pattern.UnbrokenText
import IcuMessage.Proofs.Formatter.EscapedText
import IcuMessage.Proofs.Pattern.ByteOrigins
import IcuMessage.Proofs.Pattern.QuoteRemoval
import IcuMessage.Proofs.Pattern.BraceSplitting
import IcuMessage.Proofs.Pattern.OptionTexts
import IcuMessage.Proofs.Message.Replacement
import IcuMessage.Proofs.Evaluation.BlankValues
import IcuMessage.Proofs.Calendar.ZoneName
