import LoxLexer.Character

/-! # Styled text

Output for a terminal is a row of spans, some of them in a style.  In colour a
styled span stands between an opening and a closing sequence; without colour its
text stands alone.
-/

namespace LoxLexer

/-- The styles of a diagnostic. -/
inductive Style where
  /-- Bold red, for what is wrong. -/
  | alarm
  /-- Bold blue, for the frame around the source line. -/
  | frame
  deriving DecidableEq, Repr

namespace Style

def opening : Style → Text
  | alarm => "\x1b[1;31m".toList
  | frame => "\x1b[1;34m".toList

/-- The sequence that switches any style off. -/
def closing : Text :=
  "\x1b[0m".toList

end Style

/-- A stretch of text in one style, or in none. -/
structure Span where
  style? : Option Style
  text : Text
  deriving DecidableEq, Repr

namespace Span

def plain (text : Text) : Span :=
  ⟨none, text⟩

def styled (style : Style) (text : Text) : Span :=
  ⟨some style, text⟩

def render (coloured : Bool) (span : Span) : Text :=
  match span.style? with
  | none => span.text
  | some style =>
      if coloured then style.opening ++ span.text ++ Style.closing
      else span.text

def renderAll (coloured : Bool) (spans : List Span) : Text :=
  spans.flatMap (render coloured)

end Span
end LoxLexer
