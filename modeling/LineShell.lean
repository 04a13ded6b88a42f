import LineShell.Callable
import LineShell.Command
import LineShell.Command.Host
import LineShell.Completion
import LineShell.Context
import LineShell.Context.Access
import LineShell.Context.Query
import LineShell.Context.Reference
import LineShell.Context.Scan
import LineShell.Decimal.Binary
import LineShell.Decimal.Fixed
import LineShell.Decimal.Shortest
import LineShell.Demo.Commands
import LineShell.Demo.Transcript
import LineShell.Failure
import LineShell.Fault
import LineShell.Fault.Argument
import LineShell.Fault.Code
import LineShell.Journal
import LineShell.Journal.Print
import LineShell.Kind
import LineShell.Layout.Frame
import LineShell.Layout.Line
import LineShell.Layout.Print
import LineShell.Layout.Styled
import LineShell.Layout.Table
import LineShell.Line.Attempt
import LineShell.Line.Lexeme
import LineShell.Line.Scanner
import LineShell.Literal.Check
import LineShell.Literal.Evaluation
import LineShell.Literal.Expression
import LineShell.Literal.Fault
import LineShell.Literal.Field
import LineShell.Literal.Grammar
import LineShell.Literal.Number
import LineShell.Literal.Operator
import LineShell.Literal.Quotation
import LineShell.Literal.Reading
import LineShell.Literal.Scanner
import LineShell.Literal.Token
import LineShell.Look
import LineShell.Main
import LineShell.Markup.Action
import LineShell.Markup.Color
import LineShell.Markup.Emoji
import LineShell.Markup.Emoji.Table
import LineShell.Markup.Piece
import LineShell.Markup.Style
import LineShell.Markup.Styled
import LineShell.Message
import LineShell.NameMap
import LineShell.NameMap.Operation
import LineShell.Parser
import LineShell.Parser.Builtin
import LineShell.Parser.Registry
import LineShell.Parser.Sample
import LineShell.Program
import LineShell.Ring
import LineShell.Ring.Operation
import LineShell.Ring.View
import LineShell.Script
import LineShell.Severity
import LineShell.Shape
import LineShell.Shell
import LineShell.Shell.Builtin
import LineShell.Shell.Dispatch
import LineShell.Shell.Gate
import LineShell.Shell.Host
import LineShell.Shell.Similar
import LineShell.Summary
import LineShell.Text.Blank
import LineShell.Text.Case
import LineShell.Text.Case.Table
import LineShell.Text.Cells
import LineShell.Text.CharacterName
import LineShell.Text.CharacterName.Table
import LineShell.Text.Digit
import LineShell.Text.Letter
import LineShell.Text.Name
import LineShell.Text.Numeral
import LineShell.Text.Numeric
import LineShell.Text.Printable
import LineShell.Text.Quoted
import LineShell.Text.Ranges
import LineShell.Text.Word
import LineShell.Text.Wording
import LineShell.Value
import LineShell.Value.Sum
import LineShell.Value.Union
import LineShell.Proofs.Operations
import LineShell.Proofs.Ring.Queue
import LineShell.Proofs.Ring.Wheel
import LineShell.Proofs.Text.Lowering
import LineShell.Proofs.NameMap.Dictionary
import LineShell.Proofs.Parser.Registration
import LineShell.Proofs.Parser.Lookup
import LineShell.Proofs.Parser.Naming
import LineShell.Proofs.Line.Grammar
import LineShell.Proofs.Line.Segments
import LineShell.Proofs.Line.Checkpoint
import LineShell.Proofs.Line.Nesting
import LineShell.Proofs.Context.Reading
import LineShell.Proofs.Context.Language
import LineShell.Proofs.Context.RoundTrip
import LineShell.Proofs.Context.Progress
import LineShell.Proofs.Context.Stopping
import LineShell.Proofs.Context.Examination
import LineShell.Proofs.Shell.Gate
import LineShell.Proofs.Shell.Timing
import LineShell.Proofs.Shell.Course
import LineShell.Proofs.Shell.Descent
import LineShell.Proofs.Shell.Verbatim
import LineShell.Proofs.Shell.Misreading
import LineShell.Proofs.Shell.Calling
import LineShell.Proofs.Shell.Isolation
import LineShell.Proofs.Shell.Steps
import LineShell.Proofs.Shell.Session
import LineShell.Proofs.Shell.Termination
import LineShell.Proofs.Shell.Table
import LineShell.Proofs.Context.Access
import LineShell.Proofs.Context.Resolution
import LineShell.Proofs.Context.Substitution
import LineShell.Proofs.Shell.Resolution
import LineShell.Proofs.Context.Chronicle
import LineShell.Proofs.Shell.Chronicle
import LineShell.Proofs.Shell.Answer
import LineShell.Proofs.Shell.Arity
import LineShell.Proofs.Shell.Binding
import LineShell.Proofs.Context.Delivery
import LineShell.Proofs.Context.Consumption
import LineShell.Proofs.Line.Separation
import LineShell.Proofs.Context.Separation
import LineShell.Proofs.Text.FinalSigma
import LineShell.Proofs.Text.Numeral
import LineShell.Proofs.Completion.Matching
import LineShell.Proofs.Completion.Candidates
import LineShell.Proofs.Completion.Cycling
import LineShell.Proofs.Demo.Printing
import LineShell.Proofs.Demo.Addition
import LineShell.Proofs.Message.Styling
