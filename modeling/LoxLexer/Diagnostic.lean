import LoxLexer.Failure
import LoxLexer.Lines
import LoxLexer.Styled

/-! # Diagnostics

A diagnostic shows a failure to the reader: heading and message, then its place,
then the source line of that place with a row of carets under it.  The source
line is left out where the text has no such line.
-/

namespace LoxLexer
namespace Failure

def headline (failure : Failure) : List Span :=
  [.styled .alarm failure.heading, .plain (": ".toList ++ failure.message ++ ['\n'])]

def arrow (location : Location) : List Span :=
  [.plain "  ".toList, .styled .frame "-->".toList,
    .plain (' ' :: location.text ++ ['\n'])]

/-- The gutter beside a row of source context. -/
def gutter (label : Span) : List Span :=
  [.plain "  ".toList, label, .plain [' '], .styled .frame ['|']]

/-- The line numbered `line`, framed: an empty row, the line itself, and a caret
under each of its characters. -/
def excerpt (line : Nat) (shown : Text) : List Span :=
  let number := Decimal.digits line
  let blank := Span.plain (List.replicate number.length ' ')
  let carets := List.replicate (max shown.length 1) '^'
  gutter blank ++ [.plain ['\n']] ++
    gutter (.styled .frame number) ++ [.plain (' ' :: shown ++ ['\n'])] ++
    gutter blank ++ [.plain [' '], .styled .alarm carets, .plain ['\n']]

/-- The excerpt of a source text at `line`, or nothing where it has no such
line. -/
def context (source : Text) (line : Nat) : List Span :=
  match line with
  | 0 => []
  | index + 1 =>
      match (Lines.ofText source)[index]? with
      | some shown => excerpt line shown
      | none => []

/-- The diagnostic of a failure, with context where a source text is given. -/
def diagnostic (source? : Option Text) (failure : Failure) : List Span :=
  failure.headline ++
    match failure.location? with
    | none => []
    | some location =>
        arrow location ++
          match source? with
          | none => []
          | some source => context source location.line

end Failure
end LoxLexer
