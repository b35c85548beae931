import LoxLexer.Token.Keyword
import LoxLexer.Token.Symbol

/-! # Kinds of tokens -/

namespace LoxLexer

/-- What a token is, apart from its characters and its place. -/
inductive Kind where
  | symbol (mark : Symbol)
  | keyword (word : Keyword)
  | identifier
  | string
  | number
  | endOfInput
  deriving DecidableEq, Repr

namespace Kind

def all : List Kind :=
  Symbol.all.map symbol ++ Keyword.all.map keyword ++
    [identifier, string, number, endOfInput]

theorem mem_all (kind : Kind) :
    kind ∈ all := by
  cases kind with
  | symbol mark => simp [all, Symbol.mem_all]
  | keyword word => simp [all, Keyword.mem_all]
  | identifier => simp [all]
  | string => simp [all]
  | number => simp [all]
  | endOfInput => simp [all]

/-- The printed form of a kind: its characters where they are fixed, else a
word for the class. -/
def spelling : Kind → Text
  | symbol mark => mark.spelling
  | keyword word => word.spelling
  | identifier => "identifier".toList
  | string => "string".toList
  | number => "number".toList
  | endOfInput => "EOF".toList

/-- The name of a kind in log records. -/
def name : Kind → Text
  | symbol mark => mark.name
  | keyword word => word.name
  | identifier => "Identifier".toList
  | string => "String".toList
  | number => "Number".toList
  | endOfInput => "Eof".toList

def ofName? (name : Text) : Option Kind :=
  all.find? fun kind => kind.name == name

/-- The kind of a reserved word. -/
def keyword? (text : Text) : Option Kind :=
  (Keyword.ofText? text).map keyword

/-- Whether a kind is that of a reserved word: its printed form is looked up as the
kind itself. -/
def isKeyword (kind : Kind) : Bool :=
  keyword? kind.spelling == some kind

/-- A word is a keyword where its letters are reserved, else an identifier. -/
def ofWord (letters : Text) : Kind :=
  match Keyword.ofText? letters with
  | some word => keyword word
  | none => identifier

end Kind
end LoxLexer
