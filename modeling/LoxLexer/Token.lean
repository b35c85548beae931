import LoxLexer.Token.Kind
import LoxLexer.Token.Literal

/-! # Tokens -/

namespace LoxLexer

/-- A token with the exact characters it was read from and the line, counted
from one, of its first character. -/
structure Token where
  kind : Kind
  lexeme : Text
  literal : Literal
  line : Nat
  deriving DecidableEq, Repr

namespace Token

/-- The token that ends every scan. -/
def endOfInput (line : Nat) : Token where
  kind := .endOfInput
  lexeme := []
  literal := .absent
  line := line

/-- The printed form of a token: kind, lexeme and literal, a space between. -/
def display (token : Token) : Text :=
  token.kind.spelling ++ ' ' :: token.lexeme ++ ' ' :: token.literal.display

/-- Equality of tokens, where number literals compare by value. -/
def equal (left right : Token) : Bool :=
  left.kind == right.kind && left.lexeme == right.lexeme &&
    left.literal.equal right.literal && left.line == right.line

end Token
end LoxLexer
