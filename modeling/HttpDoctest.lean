import HttpDoctest.CommandLine
import HttpDoctest.Console.Ansi
import HttpDoctest.Console.Basic
import HttpDoctest.Console.Sink
import HttpDoctest.Document
import HttpDoctest.Exchange.Basic
import HttpDoctest.Exchange.Client
import HttpDoctest.Exchange.HeaderMap
import HttpDoctest.Exchange.Uri
import HttpDoctest.Expression.Error
import HttpDoctest.Expression.Evaluation
import HttpDoctest.Expression.Grammar
import HttpDoctest.Expression.Lexeme
import HttpDoctest.Expression.Syntax
import HttpDoctest.Expression.Token
import HttpDoctest.Expression.Trailer
import HttpDoctest.Failure
import HttpDoctest.Json.Basic
import HttpDoctest.Json.Printer
import HttpDoctest.Json.Reader
import HttpDoctest.Main
import HttpDoctest.Number.Binary
import HttpDoctest.Number.Layout
import HttpDoctest.Number.Reader
import HttpDoctest.Number.Shortest
import HttpDoctest.Proofs.Console.Actions
import HttpDoctest.Proofs.Console.Appearance
import HttpDoctest.Proofs.Console.Codes
import HttpDoctest.Proofs.Console.HeldCodes
import HttpDoctest.Proofs.Console.LineFeeds
import HttpDoctest.Proofs.Console.Painting
import HttpDoctest.Proofs.Console.Pieces
import HttpDoctest.Proofs.Console.Refusals
import HttpDoctest.Proofs.Console.Writes
import HttpDoctest.Proofs.Document.Decomposition
import HttpDoctest.Proofs.Document.UnclosedFence
import HttpDoctest.Proofs.Exchange.HeaderMerging
import HttpDoctest.Proofs.Execution
import HttpDoctest.Proofs.Expression.Assignment
import HttpDoctest.Proofs.Expression.Boundaries
import HttpDoctest.Proofs.Expression.Completeness
import HttpDoctest.Proofs.Expression.Failures
import HttpDoctest.Proofs.Expression.Forms
import HttpDoctest.Proofs.Expression.Literals
import HttpDoctest.Proofs.Expression.Lookahead
import HttpDoctest.Proofs.Expression.Munch
import HttpDoctest.Proofs.Expression.Names
import HttpDoctest.Proofs.Expression.Outcomes
import HttpDoctest.Proofs.Expression.Productions
import HttpDoctest.Proofs.Expression.Readers
import HttpDoctest.Proofs.Expression.SideEffects
import HttpDoctest.Proofs.Expression.Soundness
import HttpDoctest.Proofs.Expression.Statements
import HttpDoctest.Proofs.Expression.StoreKeys
import HttpDoctest.Proofs.Json.Characters
import HttpDoctest.Proofs.Json.Readings
import HttpDoctest.Proofs.Number.Counts
import HttpDoctest.Proofs.Number.Decimals
import HttpDoctest.Proofs.Number.Doubles
import HttpDoctest.Proofs.Request.CarriageReturns
import HttpDoctest.Proofs.Request.Characters
import HttpDoctest.Proofs.Request.FirstLine
import HttpDoctest.Proofs.Request.HeaderFold
import HttpDoctest.Proofs.Request.HeaderValues
import HttpDoctest.Proofs.Request.LineEnds
import HttpDoctest.Proofs.Request.Lines
import HttpDoctest.Proofs.Request.Markers
import HttpDoctest.Proofs.Request.Remainder
import HttpDoctest.Proofs.Request.Rendering
import HttpDoctest.Proofs.Request.Rules
import HttpDoctest.Proofs.Request.Separator
import HttpDoctest.Proofs.Request.Trailers
import HttpDoctest.Proofs.Request.UrlLine
import HttpDoctest.Proofs.Request.Written
import HttpDoctest.Proofs.Run.Colours
import HttpDoctest.Proofs.Run.Course
import HttpDoctest.Proofs.Run.Escapes
import HttpDoctest.Proofs.Run.Painting
import HttpDoctest.Proofs.Run.Refusals
import HttpDoctest.Proofs.Run.Requests
import HttpDoctest.Proofs.Run.Splitting
import HttpDoctest.Proofs.Run.Transcript
import HttpDoctest.Proofs.Run.Verdicts
import HttpDoctest.Proofs.Table
import HttpDoctest.Proofs.Template.Missing
import HttpDoctest.Proofs.Template.Placeholders
import HttpDoctest.Proofs.Text.Bytes
import HttpDoctest.Proofs.Text.Greedy
import HttpDoctest.Proofs.Text.Search
import HttpDoctest.Proofs.Text.Trimmed
import HttpDoctest.Proofs.Value.Equality
import HttpDoctest.Proofs.Value.IntegerText
import HttpDoctest.Proofs.Value.JsonConversion
import HttpDoctest.Proofs.Value.Keys
import HttpDoctest.Proofs.Value.Parts
import HttpDoctest.Proofs.Value.TextPositions
import HttpDoctest.Reading
import HttpDoctest.Request.Block
import HttpDoctest.Request.Headers
import HttpDoctest.Request.Method
import HttpDoctest.Request.Rules
import HttpDoctest.Runner
import HttpDoctest.Table
import HttpDoctest.Template
import HttpDoctest.Text.Blank
import HttpDoctest.Text.Case
import HttpDoctest.Text.Case.Table
import HttpDoctest.Text.Lines
import HttpDoctest.Text.Printable.Table
import HttpDoctest.Text.Quoted
import HttpDoctest.Text.Search
import HttpDoctest.Value.Basic
import HttpDoctest.Value.Members
import HttpDoctest.Value.Text
