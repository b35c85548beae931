import LoxLexer.Character

/-! # Reserved words

A word is reserved when it is spelled exactly like a keyword; case matters and
a longer word is never reserved.
-/

namespace LoxLexer

inductive Keyword where
  | andWord
  | classWord
  | elseWord
  | falseWord
  | forWord
  | funWord
  | ifWord
  | nilWord
  | orWord
  | printWord
  | superWord
  | thisWord
  | trueWord
  | varWord
  | whileWord
  deriving DecidableEq, Repr

namespace Keyword

def all : List Keyword :=
  [andWord, classWord, elseWord, falseWord, forWord, funWord, ifWord, nilWord,
    orWord, printWord, superWord, thisWord, trueWord, varWord, whileWord]

theorem mem_all (keyword : Keyword) :
    keyword ∈ all := by
  cases keyword <;> decide

def spelling : Keyword → Text
  | andWord => "and".toList
  | classWord => "class".toList
  | elseWord => "else".toList
  | falseWord => "false".toList
  | forWord => "for".toList
  | funWord => "fun".toList
  | ifWord => "if".toList
  | nilWord => "nil".toList
  | orWord => "or".toList
  | printWord => "print".toList
  | superWord => "super".toList
  | thisWord => "this".toList
  | trueWord => "true".toList
  | varWord => "var".toList
  | whileWord => "while".toList

/-- The name of a keyword in log records. -/
def name : Keyword → Text
  | andWord => "And".toList
  | classWord => "Class".toList
  | elseWord => "Else".toList
  | falseWord => "False".toList
  | forWord => "For".toList
  | funWord => "Fun".toList
  | ifWord => "If".toList
  | nilWord => "Nil".toList
  | orWord => "Or".toList
  | printWord => "Print".toList
  | superWord => "Super".toList
  | thisWord => "This".toList
  | trueWord => "True".toList
  | varWord => "Var".toList
  | whileWord => "While".toList

/-- The reserved words, each with its keyword. -/
def reserved : List (Text × Keyword) :=
  [("and".toList, andWord), ("class".toList, classWord), ("else".toList, elseWord),
    ("false".toList, falseWord), ("for".toList, forWord), ("fun".toList, funWord),
    ("if".toList, ifWord), ("nil".toList, nilWord), ("or".toList, orWord),
    ("print".toList, printWord), ("super".toList, superWord), ("this".toList, thisWord),
    ("true".toList, trueWord), ("var".toList, varWord), ("while".toList, whileWord)]

/-- The keyword of a reserved word. -/
def ofText? (text : Text) : Option Keyword :=
  reserved.lookup text

/-- Every reserved word is the spelling of its keyword. -/
theorem spelling_of_mem_reserved
    {text : Text} {keyword : Keyword} (member : (text, keyword) ∈ reserved) :
    keyword.spelling = text := by
  have table : (reserved.all fun entry => entry.2.spelling == entry.1) = true := by
    decide
  simpa using List.all_eq_true.mp table _ member

@[simp] theorem ofText?_spelling (keyword : Keyword) :
    ofText? keyword.spelling = some keyword := by
  cases keyword <;> rfl

theorem ofText?_eq_some_iff {text : Text} {keyword : Keyword} :
    ofText? text = some keyword ↔ keyword.spelling = text := by
  constructor
  · intro found
    obtain ⟨before, after, divided, _⟩ := List.lookup_eq_some_iff.mp found
    apply spelling_of_mem_reserved
    rw [divided]
    exact List.mem_append_right before List.mem_cons_self
  · intro same
    rw [← same, ofText?_spelling]

end Keyword
end LoxLexer
