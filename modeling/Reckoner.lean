import Reckoner.Binary64.Gamma
import Reckoner.CommandLine.Execution
import Reckoner.Console.Print
import Reckoner.Document.Reader
import Reckoner.Expression.Symbols
import Reckoner.Expression.Value
import Reckoner.Fallback.Exchange
import Reckoner.Json.Printer
import Reckoner.Json.Reader
import Reckoner.Keypad
import Reckoner.Main
import Reckoner.Proofs.AngleMode
import Reckoner.Proofs.Binary64.Finite
import Reckoner.Proofs.Binary64.Nearest
import Reckoner.Proofs.Binary64.Places
import Reckoner.Proofs.Binary64.Range
import Reckoner.Proofs.Binary64.Reading
import Reckoner.Proofs.Binary64.Shortest
import Reckoner.Proofs.Binary64.Text
import Reckoner.Proofs.CommandLine.Answering
import Reckoner.Proofs.CommandLine.Passage
import Reckoner.Proofs.CommandLine.Printing
import Reckoner.Proofs.Console.Layout
import Reckoner.Proofs.Console.Markup
import Reckoner.Proofs.Continuation
import Reckoner.Proofs.Display
import Reckoner.Proofs.Evaluation
import Reckoner.Proofs.Expression.Alike
import Reckoner.Proofs.Expression.Boundary
import Reckoner.Proofs.Expression.Calls
import Reckoner.Proofs.Expression.Continuation
import Reckoner.Proofs.Expression.Culprit
import Reckoner.Proofs.Expression.FirstError
import Reckoner.Proofs.Expression.Halting
import Reckoner.Proofs.Expression.Interchange
import Reckoner.Proofs.Expression.Juxtaposition
import Reckoner.Proofs.Expression.Lexing
import Reckoner.Proofs.Expression.Literal
import Reckoner.Proofs.Expression.Nesting
import Reckoner.Proofs.Expression.Obstruction
import Reckoner.Proofs.Expression.Overflow
import Reckoner.Proofs.Expression.Parsing
import Reckoner.Proofs.Expression.Position
import Reckoner.Proofs.Expression.Product
import Reckoner.Proofs.Expression.Rereading
import Reckoner.Proofs.Expression.Rewriting
import Reckoner.Proofs.Expression.Spacing
import Reckoner.Proofs.Fallback.Classification
import Reckoner.Proofs.Fallback.Completion
import Reckoner.Proofs.Fallback.Reply
import Reckoner.Proofs.Json.Grammar
import Reckoner.Proofs.Json.Reading
import Reckoner.Proofs.Keypad.Fusion
import Reckoner.Proofs.Keypad.Pieces
import Reckoner.Proofs.Numeral
import Reckoner.Proofs.Outcome
import Reckoner.Proofs.Registry.Isolation
import Reckoner.Proofs.Registry.Lifecycle
import Reckoner.Proofs.Registry.Run
import Reckoner.Proofs.Rounding
import Reckoner.Proofs.Rounding.Order
import Reckoner.Proofs.Session.Capture
import Reckoner.Proofs.Session.Channel
import Reckoner.Proofs.Session.Commit
import Reckoner.Proofs.Session.Composition
import Reckoner.Proofs.Session.Dictation
import Reckoner.Proofs.Session.Failure
import Reckoner.Proofs.Session.Freeze
import Reckoner.Proofs.Session.Keying
import Reckoner.Proofs.Session.Ledger
import Reckoner.Proofs.Session.Microphone
import Reckoner.Proofs.Session.Origin
import Reckoner.Proofs.Session.Typing
import Reckoner.Proofs.Settings.Override
import Reckoner.Proofs.Spacing
import Reckoner.Proofs.Text.Lowercase
import Reckoner.Proofs.Text.Rewriting
import Reckoner.Proofs.Text.Substitution
import Reckoner.Proofs.Totality
import Reckoner.Proofs.Transcript.Lexeme
import Reckoner.Proofs.Transcript.Substitution
import Reckoner.Rounding
import Reckoner.Server.Handling
import Reckoner.Settings.Environment
import Reckoner.Settings.Override
import Reckoner.Text.Printable
import Reckoner.Transcript
