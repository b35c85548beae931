/-! # Characters and texts

A text is a list of Unicode scalar values.  The lexical grammar looks at
characters only through the classes below; every class is a set of ASCII
characters, so a character outside ASCII belongs to none of them.
-/

namespace LoxLexer

/-- A sequence of Unicode scalar values. -/
abbrev Text := List Char

namespace Character

/-- Space, tab, carriage return and line feed separate tokens. -/
def isBlank (character : Char) : Bool :=
  character == ' ' || character == '\t' || character == '\r' || character == '\n'

def isDigit (character : Char) : Bool :=
  character.isDigit

/-- The ASCII letters and the underscore begin a word. -/
def isLetter (character : Char) : Bool :=
  character.isAlpha || character == '_'

/-- Letters and digits continue a word. -/
def isWordCharacter (character : Char) : Bool :=
  isLetter character || isDigit character

/-- A quote delimits a string. -/
def isQuote (character : Char) : Bool :=
  character == '"'

/-- A line feed ends a line. -/
def isLineFeed (character : Char) : Bool :=
  character == '\n'

end Character
end LoxLexer
