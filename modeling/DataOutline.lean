import DataOutline.Calendar.Instant
import DataOutline.Calendar.Reading
import DataOutline.CommandLine.Arguments
import DataOutline.CommandLine.Help
import DataOutline.CommandLine.Log
import DataOutline.CommandLine.Output
import DataOutline.CommandLine.Run
import DataOutline.Decimal.Digits
import DataOutline.Decimal.Exact
import DataOutline.Decimal.Notation
import DataOutline.Decimal.Reading
import DataOutline.Document.Basic
import DataOutline.Document.Fault
import DataOutline.Document.Listing
import DataOutline.Document.Parser
import DataOutline.Document.Printer
import DataOutline.Entries
import DataOutline.Entries.Operation
import DataOutline.Excerpt
import DataOutline.Expression.Basic
import DataOutline.Expression.Evaluation
import DataOutline.Expression.Lexer
import DataOutline.Expression.Parser
import DataOutline.Expression.Token
import DataOutline.Generator.Basic
import DataOutline.Generator.Draws
import DataOutline.Grammar.Key
import DataOutline.Grammar.Value
import DataOutline.Json.Basic
import DataOutline.Json.Printer
import DataOutline.Json.Reader
import DataOutline.Main
import DataOutline.Mixin.Edit
import DataOutline.Mixin.Path
import DataOutline.Program.Basic
import DataOutline.Program.Run
import DataOutline.Proofs.CommandLine.Contexts
import DataOutline.Proofs.CommandLine.Evaluation
import DataOutline.Proofs.Decimal.Digits
import DataOutline.Proofs.Decimal.Index
import DataOutline.Proofs.Decimal.Numeral
import DataOutline.Proofs.Decimal.Order
import DataOutline.Proofs.Decimal.Whole
import DataOutline.Proofs.Document.Acceptance
import DataOutline.Proofs.Document.Appending
import DataOutline.Proofs.Document.Canonical
import DataOutline.Proofs.Document.Comments
import DataOutline.Proofs.Document.Compiling
import DataOutline.Proofs.Document.Gathering
import DataOutline.Proofs.Document.Layout
import DataOutline.Proofs.Document.LineEndings
import DataOutline.Proofs.Document.Outline
import DataOutline.Proofs.Document.Partition
import DataOutline.Proofs.Document.Parts
import DataOutline.Proofs.Document.Pointing
import DataOutline.Proofs.Document.Positions
import DataOutline.Proofs.Document.Relocation
import DataOutline.Proofs.Document.Retained
import DataOutline.Proofs.Document.RoundTrip
import DataOutline.Proofs.Document.Scan
import DataOutline.Proofs.Document.Scope
import DataOutline.Proofs.Document.Span
import DataOutline.Proofs.Document.Tiling
import DataOutline.Proofs.Entries
import DataOutline.Proofs.Entries.History
import DataOutline.Proofs.Excerpt
import DataOutline.Proofs.Excerpt.ByteRange
import DataOutline.Proofs.Expression.Access
import DataOutline.Proofs.Expression.Calls
import DataOutline.Proofs.Expression.Completeness
import DataOutline.Proofs.Expression.Datum
import DataOutline.Proofs.Expression.Depth
import DataOutline.Proofs.Expression.Grammar
import DataOutline.Proofs.Expression.Height
import DataOutline.Proofs.Expression.Inversion
import DataOutline.Proofs.Expression.Lookahead
import DataOutline.Proofs.Expression.Nesting
import DataOutline.Proofs.Expression.Numbers
import DataOutline.Proofs.Expression.Positions
import DataOutline.Proofs.Expression.Soundness
import DataOutline.Proofs.Expression.Spacing
import DataOutline.Proofs.Expression.Tokens
import DataOutline.Proofs.Generator.Outcome
import DataOutline.Proofs.Grammar.Beginning
import DataOutline.Proofs.Grammar.Cutting
import DataOutline.Proofs.Grammar.Numbering
import DataOutline.Proofs.Grammar.Parting
import DataOutline.Proofs.Grammar.Reading
import DataOutline.Proofs.Grammar.Recovery
import DataOutline.Proofs.Grammar.Returns
import DataOutline.Proofs.Grammar.SpelledLines
import DataOutline.Proofs.Grammar.Spelling
import DataOutline.Proofs.Json.Reading
import DataOutline.Proofs.Json.Scalars
import DataOutline.Proofs.Json.Sorting
import DataOutline.Proofs.Mixin.Addition
import DataOutline.Proofs.Mixin.Distinct
import DataOutline.Proofs.Mixin.Dotted
import DataOutline.Proofs.Mixin.InPlace
import DataOutline.Proofs.Mixin.Location
import DataOutline.Proofs.Mixin.Lookup
import DataOutline.Proofs.Mixin.Order
import DataOutline.Proofs.Mixin.Overwriting
import DataOutline.Proofs.Mixin.Removal
import DataOutline.Proofs.Mixin.Replacement
import DataOutline.Proofs.Program.Blame
import DataOutline.Proofs.Program.Compilation
import DataOutline.Proofs.Program.Datum
import DataOutline.Proofs.Program.Execution
import DataOutline.Proofs.Program.Literal
import DataOutline.Proofs.Program.Meaning
import DataOutline.Proofs.Program.Names
import DataOutline.Proofs.Program.Outcome
import DataOutline.Proofs.Program.QuotedKey
import DataOutline.Proofs.Result
import DataOutline.Proofs.Text.Lines
import DataOutline.Proofs.Value.Equality
import DataOutline.Proofs.Value.JsonRoundTrip
import DataOutline.Report
import DataOutline.Text.Blank
import DataOutline.Text.Case
import DataOutline.Text.CaseTable
import DataOutline.Text.Display
import DataOutline.Text.DisplayTable
import DataOutline.Text.Letter
import DataOutline.Text.LetterTable
import DataOutline.Text.Line
import DataOutline.Text.Similarity
import DataOutline.Toml.Fault
import DataOutline.Toml.Quoted
import DataOutline.Toml.Reader
import DataOutline.Toml.Scalar
import DataOutline.Toml.Table
import DataOutline.Value.Basic
import DataOutline.Value.Context
import DataOutline.Value.Display
import DataOutline.Value.Error
import DataOutline.Value.Member
import DataOutline.Value.Operator
