import LoxLexer.Character

/-! # Lines

A line reaches up to and including its line feed; only the last line of a text
may lack one, and no empty line follows a final line feed.
-/

namespace LoxLexer
namespace Lines

universe u

variable {α : Type u}

/-- Put an element in front of cut lines, where `ends` tells what closes a
line. -/
def prepend (ends : α → Bool) (head : α) (lines : List (List α)) :
    List (List α) :=
  if ends head then [head] :: lines
  else
    match lines with
    | [] => [[head]]
    | line :: rest => (head :: line) :: rest

/-- Cut a sequence behind every element that closes a line. -/
def cut (ends : α → Bool) (source : List α) : List (List α) :=
  source.foldr (prepend ends) []

@[simp] theorem cut_nil (ends : α → Bool) :
    cut ends [] = [] :=
  rfl

theorem cut_cons (ends : α → Bool) (head : α) (rest : List α) :
    cut ends (head :: rest) = prepend ends head (cut ends rest) :=
  rfl

theorem flatten_prepend (ends : α → Bool) (head : α) (lines : List (List α)) :
    (prepend ends head lines).flatten = head :: lines.flatten := by
  unfold prepend
  split
  · rfl
  · split <;> simp

/-- The lines of a sequence, one after the other, are the sequence. -/
theorem flatten_cut (ends : α → Bool) (source : List α) :
    (cut ends source).flatten = source := by
  induction source with
  | nil => rfl
  | cons head rest induction =>
      rw [cut_cons, flatten_prepend, induction]

/-- A line without its line feed and without one carriage return directly before
that. -/
def withoutEnding (line : Text) : Text :=
  match line.reverse with
  | '\n' :: '\r' :: body => body.reverse
  | '\n' :: body => body.reverse
  | _ => line

def ofText (source : Text) : List Text :=
  (cut Character.isLineFeed source).map withoutEnding

/-- A line without any carriage returns and line feeds at its end. -/
def trimmed (line : Text) : Text :=
  (line.reverse.dropWhile fun character =>
    character == '\n' || character == '\r').reverse

end Lines
end LoxLexer
