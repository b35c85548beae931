import LoxLexer.Character
import LoxLexer.Diagnostic
import LoxLexer.Escape
import LoxLexer.Escape.Unprintable
import LoxLexer.Failure
import LoxLexer.Fault
import LoxLexer.Lines
import LoxLexer.Main
import LoxLexer.Number.Binary64
import LoxLexer.Number.Decimal
import LoxLexer.Number.Numeral
import LoxLexer.Number.Rounding
import LoxLexer.Number.Shortest
import LoxLexer.Program
import LoxLexer.Program.Access
import LoxLexer.Program.Colour
import LoxLexer.Program.Folder
import LoxLexer.Program.Prompt
import LoxLexer.Program.Report
import LoxLexer.Program.Script
import LoxLexer.Proofs.Agreement
import LoxLexer.Proofs.Blanks
import LoxLexer.Proofs.Colouring
import LoxLexer.Proofs.CommandLine
import LoxLexer.Proofs.Context
import LoxLexer.Proofs.Conversation
import LoxLexer.Proofs.Coverage
import LoxLexer.Proofs.Cursor
import LoxLexer.Proofs.Decoding
import LoxLexer.Proofs.Encoding
import LoxLexer.Proofs.Escaping
import LoxLexer.Proofs.Findings
import LoxLexer.Proofs.Grammar
import LoxLexer.Proofs.History
import LoxLexer.Proofs.InputLine
import LoxLexer.Proofs.LineBoundary
import LoxLexer.Proofs.LineEndings
import LoxLexer.Proofs.LineNumbers
import LoxLexer.Proofs.Lines
import LoxLexer.Proofs.LongestMatch
import LoxLexer.Proofs.Lookahead
import LoxLexer.Proofs.Offence
import LoxLexer.Proofs.Opening
import LoxLexer.Proofs.Patterns
import LoxLexer.Proofs.Printing
import LoxLexer.Proofs.Raising
import LoxLexer.Proofs.Relabelling
import LoxLexer.Proofs.Row
import LoxLexer.Proofs.Segment
import LoxLexer.Proofs.Separation
import LoxLexer.Proofs.TokenShape
import LoxLexer.Proofs.Wording
import LoxLexer.Record
import LoxLexer.Scan
import LoxLexer.Scanner
import LoxLexer.Session
import LoxLexer.Styled
import LoxLexer.Token
import LoxLexer.Token.Keyword
import LoxLexer.Token.Kind
import LoxLexer.Token.Literal
import LoxLexer.Token.Symbol
import LoxLexer.Proofs.Rounding
import LoxLexer.Proofs.Nearness
import LoxLexer.Proofs.CorrectRounding
import LoxLexer.Proofs.NumberValue
import LoxLexer.Proofs.Comments
import LoxLexer.Proofs.Appending
import LoxLexer.Proofs.OpenStrings
import LoxLexer.Proofs.Digits
import LoxLexer.Proofs.Shortest
import LoxLexer.Proofs.NumberDisplay
import LoxLexer.Proofs.Places
import LoxLexer.Proofs.Spacing
import LoxLexer.Proofs.Log
import LoxLexer.Proofs.Unescaping
import LoxLexer.Proofs.Records
import LoxLexer.Proofs.FailureText
import LoxLexer.Proofs.Equality
import LoxLexer.Proofs.Resuming
import LoxLexer.Proofs.Safety
