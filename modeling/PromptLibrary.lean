import PromptLibrary.Analysis
import PromptLibrary.Command.Run
import PromptLibrary.Conversion
import PromptLibrary.Main
import PromptLibrary.Model.Anthropic
import PromptLibrary.Proofs.Analysis.Failures
import PromptLibrary.Proofs.Command.Agreement
import PromptLibrary.Proofs.Command.Menu
import PromptLibrary.Proofs.Conversion.Atomic
import PromptLibrary.Proofs.Conversion.Cut
import PromptLibrary.Proofs.Conversion.Encodable
import PromptLibrary.Proofs.Conversion.LineEndings
import PromptLibrary.Proofs.Conversion.Refusals
import PromptLibrary.Proofs.Conversion.Tail
import PromptLibrary.Proofs.Files.Action
import PromptLibrary.Proofs.Json.Inclusion
import PromptLibrary.Proofs.Json.Lines
import PromptLibrary.Proofs.Json.Recognition
import PromptLibrary.Proofs.Literal.CodePoints
import PromptLibrary.Proofs.Literal.Duplicates
import PromptLibrary.Proofs.Literal.Faults
import PromptLibrary.Proofs.Literal.Held
import PromptLibrary.Proofs.Literal.LongNumber
import PromptLibrary.Proofs.Literal.Nesting
import PromptLibrary.Proofs.Literal.Numerals
import PromptLibrary.Proofs.Literal.Policy
import PromptLibrary.Proofs.Literal.Progress
import PromptLibrary.Proofs.Literal.Reached
import PromptLibrary.Proofs.Literal.Spelling
import PromptLibrary.Proofs.Literal.Spots
import PromptLibrary.Proofs.Literal.Steps
import PromptLibrary.Proofs.Literal.Suffix
import PromptLibrary.Proofs.Literal.Sum
import PromptLibrary.Proofs.Model.Listing
import PromptLibrary.Proofs.Number.Length
import PromptLibrary.Proofs.Source.Braces
import PromptLibrary.Proofs.Source.Unbalanced
import PromptLibrary.Proofs.Store.Cache
import PromptLibrary.Proofs.Store.Loading
import PromptLibrary.Proofs.Template.Insert
import PromptLibrary.Proofs.Template.Listing
import PromptLibrary.Proofs.Template.Splice
import PromptLibrary.Store
import PromptLibrary.Template.Placeholder
