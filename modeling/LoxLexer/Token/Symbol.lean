import LoxLexer.Character

/-! # Operators and punctuation

The spelling of a symbol is the one table; reading a symbol looks it up there,
trying two characters before one.
-/

namespace LoxLexer

inductive Symbol where
  | leftParen
  | rightParen
  | leftBrace
  | rightBrace
  | comma
  | dot
  | minus
  | plus
  | semicolon
  | slash
  | star
  | bang
  | bangEqual
  | equal
  | equalEqual
  | greater
  | greaterEqual
  | less
  | lessEqual
  deriving DecidableEq, Repr

namespace Symbol

def all : List Symbol :=
  [leftParen, rightParen, leftBrace, rightBrace, comma, dot, minus, plus,
    semicolon, slash, star, bang, bangEqual, equal, equalEqual, greater,
    greaterEqual, less, lessEqual]

theorem mem_all (symbol : Symbol) :
    symbol ∈ all := by
  cases symbol <;> decide

/-- The characters that a symbol stands for. -/
def spelling : Symbol → Text
  | leftParen => ['(']
  | rightParen => [')']
  | leftBrace => ['{']
  | rightBrace => ['}']
  | comma => [',']
  | dot => ['.']
  | minus => ['-']
  | plus => ['+']
  | semicolon => [';']
  | slash => ['/']
  | star => ['*']
  | bang => ['!']
  | bangEqual => ['!', '=']
  | equal => ['=']
  | equalEqual => ['=', '=']
  | greater => ['>']
  | greaterEqual => ['>', '=']
  | less => ['<']
  | lessEqual => ['<', '=']

/-- The name of a symbol in log records. -/
def name : Symbol → Text
  | leftParen => "LeftParen".toList
  | rightParen => "RightParen".toList
  | leftBrace => "LeftBrace".toList
  | rightBrace => "RightBrace".toList
  | comma => "Comma".toList
  | dot => "Dot".toList
  | minus => "Minus".toList
  | plus => "Plus".toList
  | semicolon => "Semicolon".toList
  | slash => "Slash".toList
  | star => "Star".toList
  | bang => "Bang".toList
  | bangEqual => "BangEqual".toList
  | equal => "Equal".toList
  | equalEqual => "EqualEqual".toList
  | greater => "Greater".toList
  | greaterEqual => "GreaterEqual".toList
  | less => "Less".toList
  | lessEqual => "LessEqual".toList

/-- The symbol spelled exactly `text`. -/
def ofText? (text : Text) : Option Symbol :=
  all.find? fun symbol => symbol.spelling == text

@[simp] theorem ofText?_spelling (symbol : Symbol) :
    ofText? symbol.spelling = some symbol := by
  cases symbol <;> rfl

theorem ofText?_eq_some_iff {text : Text} {symbol : Symbol} :
    ofText? text = some symbol ↔ symbol.spelling = text := by
  constructor
  · intro found
    simpa using List.find?_some found
  · rintro rfl
    exact ofText?_spelling symbol

theorem spelling_injective {left right : Symbol}
    (same : left.spelling = right.spelling) :
    left = right := by
  have lookup := ofText?_spelling left
  rw [same, ofText?_spelling] at lookup
  exact (Option.some.inj lookup).symm

/-- The longest symbol at the front of a text, and what follows it. -/
def read? : Text → Option (Symbol × Text)
  | [] => none
  | [first] => (ofText? [first]).map fun symbol => (symbol, [])
  | first :: second :: rest =>
      match ofText? [first, second] with
      | some symbol => some (symbol, rest)
      | none => (ofText? [first]).map fun symbol => (symbol, second :: rest)

theorem spelling_append_of_read?
    {source rest : Text} {symbol : Symbol}
    (found : read? source = some (symbol, rest)) :
    symbol.spelling ++ rest = source := by
  unfold read? at found
  split at found
  · simp at found
  · simp only [Option.map_eq_some_iff, Prod.mk.injEq] at found
    obtain ⟨_, lookup, rfl, rfl⟩ := found
    simp [ofText?_eq_some_iff.mp lookup]
  · split at found
    · rename_i lookup
      simp only [Option.some.injEq, Prod.mk.injEq] at found
      obtain ⟨rfl, rfl⟩ := found
      simp [ofText?_eq_some_iff.mp lookup]
    · simp only [Option.map_eq_some_iff, Prod.mk.injEq] at found
      obtain ⟨_, lookup, rfl, rfl⟩ := found
      simp [ofText?_eq_some_iff.mp lookup]

theorem spelling_ne_nil (symbol : Symbol) :
    symbol.spelling ≠ [] := by
  cases symbol <;> simp [spelling]

end Symbol
end LoxLexer
