import LoxLexer.Number.Shortest

/-! # Literal values -/

namespace LoxLexer

/-- The value that a token carries beside its characters. -/
inductive Literal where
  | absent
  | number (value : Binary64)
  | text (body : Text)
  deriving DecidableEq, Repr

namespace Literal

/-- The printed form of a literal.  A text stands as it is, without quotes. -/
def display : Literal → Text
  | absent => "nil".toList
  | number value => value.text
  | text body => body

/-- Equality of literals, where numbers compare by value. -/
def equal : Literal → Literal → Bool
  | absent, absent => true
  | number left, number right => left.equal right
  | text left, text right => left == right
  | _, _ => false

end Literal
end LoxLexer
