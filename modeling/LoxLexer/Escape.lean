import LoxLexer.Escape.Unprintable

/-! # Escapes

Characters that cannot stand for themselves in a message are escaped: a few
have a letter, the rest are given by their code point in hexadecimal.
-/

namespace LoxLexer
namespace Escape

/-- The character that names an escape after the backslash. -/
def letter? : Char → Option Char
  | '\x00' => some '0'
  | '\t' => some 't'
  | '\n' => some 'n'
  | '\r' => some 'r'
  | '"' => some '"'
  | '\x27' => some '\x27'
  | '\\' => some '\\'
  | _ => none

/-- A character by its code point, in braces. -/
def codePoint (character : Char) : Text :=
  "\\u\x7b".toList ++ Nat.toDigits 16 character.toNat ++ ['}']

/-- The form of a character between single quotes. -/
def character (character : Char) : Text :=
  match letter? character with
  | some letter => ['\\', letter]
  | none => if isUnprintable character then codePoint character else [character]

/-- The form of a character between double quotes, where a single quote is left
as it is. -/
def textCharacter (member : Char) : Text :=
  if member = '\x27' then [member] else character member

/-- A text between double quotes. -/
def quoted (body : Text) : Text :=
  '"' :: body.flatMap textCharacter ++ ['"']

end Escape
end LoxLexer
