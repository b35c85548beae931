import LoxLexer.Lines

/-! # Access to text

A source text comes as bytes, which have to be there and to be UTF-8.
-/

namespace LoxLexer

abbrev Bytes := List UInt8

/-- Why a source text cannot be had. -/
inductive AccessFault where
  /-- Nothing has the given name. -/
  | missing
  | isDirectory
  /-- A directory is wanted where a file stands. -/
  | notDirectory
  /-- The name, or the whole path, is too long to exist. -/
  | nameTooLong
  | notText
  /-- Any other reason, in words. -/
  | other (reason : Text)
  deriving DecidableEq, Repr

namespace AccessFault

def message : AccessFault → Text
  | missing => "No such file or directory (os error 2)".toList
  | isDirectory => "Is a directory (os error 21)".toList
  | notDirectory => "Not a directory (os error 20)".toList
  | nameTooLong => "File name too long (os error 36)".toList
  | notText => "stream did not contain valid UTF-8".toList
  | other reason => reason

end AccessFault

namespace Bytes

def decode? (bytes : Bytes) : Option Text :=
  (String.fromUTF8? bytes.toByteArray).map String.toList

/-- The text that bytes encode, or the complaint that they encode none. -/
def readText (bytes : Bytes) : Except AccessFault Text :=
  match decode? bytes with
  | some text => .ok text
  | none => .error .notText

/-- The bytes of each line of input; a line feed ends a line. -/
def lines (bytes : Bytes) : List Bytes :=
  Lines.cut (fun byte => byte == 10) bytes

end Bytes
end LoxLexer
