import Tabletop.Board
import Tabletop.Command
import Tabletop.Command.Reader
import Tabletop.Console.CellWidth
import Tabletop.Console.Color
import Tabletop.Console.Emoji
import Tabletop.Console.EmojiNames
import Tabletop.Console.Markup
import Tabletop.Console.Print
import Tabletop.Console.Style
import Tabletop.Console.Wrap
import Tabletop.Execution
import Tabletop.Guarded
import Tabletop.Heading
import Tabletop.Invocation
import Tabletop.Log
import Tabletop.Main
import Tabletop.Options
import Tabletop.Options.Argument
import Tabletop.Options.Help
import Tabletop.Options.Paragraph
import Tabletop.Options.Switch
import Tabletop.Proofs.Command.Case
import Tabletop.Proofs.Command.Grammar
import Tabletop.Proofs.Command.Label
import Tabletop.Proofs.Console.Codes
import Tabletop.Proofs.Console.Escape
import Tabletop.Proofs.Console.Literal
import Tabletop.Proofs.Console.Printed
import Tabletop.Proofs.Console.Shown
import Tabletop.Proofs.Console.Tags
import Tabletop.Proofs.Console.Wrap
import Tabletop.Proofs.Invocation.Arguments
import Tabletop.Proofs.Invocation.Boundary
import Tabletop.Proofs.Invocation.Diagnostics
import Tabletop.Proofs.Invocation.ExitCodes
import Tabletop.Proofs.Invocation.Layout
import Tabletop.Proofs.Invocation.Reports
import Tabletop.Proofs.Invocation.Told
import Tabletop.Proofs.Invocation.Verbatim
import Tabletop.Proofs.Log.Entry
import Tabletop.Proofs.Run.Ahead
import Tabletop.Proofs.Run.Distance
import Tabletop.Proofs.Run.Driven
import Tabletop.Proofs.Run.Erased
import Tabletop.Proofs.Run.Guarded
import Tabletop.Proofs.Run.Idle
import Tabletop.Proofs.Run.Joined
import Tabletop.Proofs.Run.Larger
import Tabletop.Proofs.Run.OnBoard
import Tabletop.Proofs.Run.Outcomes
import Tabletop.Proofs.Run.Parts
import Tabletop.Proofs.Run.Placement
import Tabletop.Proofs.Run.Replay
import Tabletop.Proofs.Run.Session
import Tabletop.Proofs.Run.Symmetry
import Tabletop.Proofs.Run.Turns
import Tabletop.Proofs.Run.Walk
import Tabletop.Proofs.Source.Agreement
import Tabletop.Proofs.Source.Failures
import Tabletop.Proofs.Text.Cut
import Tabletop.Proofs.Text.Layout
import Tabletop.Proofs.Text.Letters
import Tabletop.Proofs.Text.Lines
import Tabletop.Proofs.Text.Numeral
import Tabletop.Proofs.Text.Quoted
import Tabletop.Proofs.Text.Split
import Tabletop.Proofs.Text.Strip
import Tabletop.Proofs.Trace.Boxed
import Tabletop.Proofs.Trace.Labels
import Tabletop.Proofs.Trace.Plain
import Tabletop.Robot
import Tabletop.Run
import Tabletop.Session
import Tabletop.Source
import Tabletop.Source.Folder
import Tabletop.Source.Path
import Tabletop.Text.Basic
import Tabletop.Text.Blank
import Tabletop.Text.Cased
import Tabletop.Text.Decimal
import Tabletop.Text.DecimalDigit
import Tabletop.Text.Lines
import Tabletop.Text.Literal
import Tabletop.Text.LooseNumeral
import Tabletop.Text.LowerCase
import Tabletop.Text.Numeral
import Tabletop.Text.Printable
import Tabletop.Text.Quoted
import Tabletop.Text.Ranges
import Tabletop.Text.Utf8
import Tabletop.Trace.Boxed
import Tabletop.Trace.Plain
import Tabletop.Trace.Row
