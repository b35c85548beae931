import LoxLexer.Escape

/-! # Lexical faults -/

namespace LoxLexer

/-- What can be wrong with a piece of source text. -/
inductive Fault where
  /-- A string was opened and the text ended before its closing quote. -/
  | unterminatedString
  /-- A character that begins no token. -/
  | unexpectedCharacter (character : Char)
  /-- Characters that do not make up a number. -/
  | malformedNumber (lexeme : Text)
  deriving DecidableEq, Repr

namespace Fault

def message : Fault → Text
  | unterminatedString => "Unterminated string.".toList
  | unexpectedCharacter character =>
      "Unexpected character '".toList ++ Escape.character character ++ "'.".toList
  | malformedNumber lexeme =>
      "Invalid number '".toList ++ lexeme ++ "'.".toList

end Fault

/-- A fault with the line, counted from one, of its first character. -/
structure LocatedFault where
  line : Nat
  fault : Fault
  deriving DecidableEq, Repr

end LoxLexer
