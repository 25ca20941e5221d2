import ArgHints.Bracket
import ArgHints.Bracket.Mode
import ArgHints.Bracket.Search
import ArgHints.CommandLine
import ArgHints.CommandLine.Arguments
import ArgHints.CommandLine.Source
import ArgHints.Config
import ArgHints.Console
import ArgHints.Console.Emoji
import ArgHints.Decimal.Binary64
import ArgHints.Decimal.Numeral
import ArgHints.Decimal.Shortest
import ArgHints.Event
import ArgHints.Hint
import ArgHints.Inquiry
import ArgHints.Interpreter
import ArgHints.Json
import ArgHints.Json.Printer
import ArgHints.Json.Reader
import ArgHints.Main
import ArgHints.Proofs.Bracket.CodeBrackets
import ArgHints.Proofs.Bracket.Earlier
import ArgHints.Proofs.Bracket.Enclosing
import ArgHints.Proofs.Bracket.ForwardPass
import ArgHints.Proofs.Bracket.Hidden
import ArgHints.Proofs.Bracket.Return
import ArgHints.Proofs.CommandLine.Agreement
import ArgHints.Proofs.CommandLine.Aim
import ArgHints.Proofs.CommandLine.Starts
import ArgHints.Proofs.Console
import ArgHints.Proofs.Hint
import ArgHints.Proofs.Hint.InTurn
import ArgHints.Proofs.Hint.Reach
import ArgHints.Proofs.Inquiry
import ArgHints.Proofs.Interpreter.Count
import ArgHints.Proofs.Interpreter.Failure
import ArgHints.Proofs.Interpreter.Header
import ArgHints.Proofs.Memo
import ArgHints.Proofs.Recall
import ArgHints.Proofs.Resolver
import ArgHints.Proofs.Resolver.Attribution
import ArgHints.Proofs.Resolver.Bound
import ArgHints.Proofs.Resolver.Consultation
import ArgHints.Proofs.Resolver.EmptyAnswers
import ArgHints.Proofs.Resolver.Strategies
import ArgHints.Proofs.Service.Footprint
import ArgHints.Proofs.Service.Handling
import ArgHints.Proofs.Service.Isolation
import ArgHints.Proofs.Service.Payload
import ArgHints.Proofs.Service.Recency
import ArgHints.Proofs.Service.Recent
import ArgHints.Proofs.Service.Transparency
import ArgHints.Proofs.Text.Blank
import ArgHints.Proofs.Text.Column
import ArgHints.Proofs.Text.Line
import ArgHints.Proofs.Text.Name
import ArgHints.Proofs.Text.Order
import ArgHints.Proofs.Text.Position
import ArgHints.Proofs.Text.Return
import ArgHints.Proofs.Text.Span
import ArgHints.Proofs.Workspace.Activation
import ArgHints.Proofs.Workspace.Confinement
import ArgHints.Proofs.Workspace.Isolation
import ArgHints.Proofs.Workspace.Verdict
import ArgHints.Recall
import ArgHints.Resolver
import ArgHints.Resolver.Consultation
import ArgHints.Service
import ArgHints.Service.Answer
import ArgHints.Service.Path
import ArgHints.Service.Payload
import ArgHints.Service.Recent
import ArgHints.Service.Visit
import ArgHints.Snapshot
import ArgHints.Text
import ArgHints.Text.Line
import ArgHints.Text.Unicode
import ArgHints.Text.Utf8
import ArgHints.Workspace
import ArgHints.Workspace.Turn
