import LoxLexer.Session

/-! # Reports

What a run of the program leaves behind: its exit status, the text on its
standard output, and the diagnostics on its standard error, which are styled.
The failure that a run comes to gives the exit status and has the last word.
-/

namespace LoxLexer

/-- What the program does before it ends: the text it prints, the diagnostics it
shows on the way, and the failure that it comes to, if any. -/
structure Attempt where
  output : Text
  complaints : List Span
  failure? : Option Failure
  deriving DecidableEq, Repr

/-- The result of running the program, before colour is chosen. -/
structure Report where
  exitStatus : Nat
  output : Text
  complaints : List Span
  deriving DecidableEq, Repr

/-- The result of running the program, as it is seen from outside. -/
structure Outcome where
  exitStatus : Nat
  output : Text
  errorOutput : Text
  deriving DecidableEq, Repr

/-- What is said of a failure that ends the program.  A lexical failure has been
shown with its source line by then, and a misuse stands without a heading. -/
def Failure.farewell (failure : Failure) : List Span :=
  match failure with
  | .lexical _ _ => []
  | .access _ => failure.diagnostic none
  | .usage message => [.plain (message ++ ['\n'])]

def Attempt.report (attempt : Attempt) : Report :=
  match attempt.failure? with
  | none => ⟨0, attempt.output, attempt.complaints⟩
  | some failure =>
      ⟨failure.exitStatus, attempt.output, attempt.complaints ++ failure.farewell⟩

/-- A report with its diagnostics in colour or without. -/
def Report.outcome (coloured : Bool) (report : Report) : Outcome where
  exitStatus := report.exitStatus
  output := report.output
  errorOutput := Span.renderAll coloured report.complaints

/-- Tokens as the program prints them, each in a row of its own. -/
def Token.rows (tokens : List Token) : Text :=
  tokens.flatMap fun token => token.display ++ ['\n']

end LoxLexer
