import LoxLexer.Number.Decimal
import LoxLexer.Number.Rounding

/-! # Decimal numerals

A numeral is a row of digits, with a point and more digits behind it where it
has a fraction.  A point that no digit follows is not part of a numeral.
-/

namespace LoxLexer

/-- The digits before and after the point.  Without a fraction no point is
written. -/
structure Numeral where
  whole : Text
  fraction : Text
  deriving DecidableEq, Repr

namespace Numeral

def text (numeral : Numeral) : Text :=
  match numeral.fraction with
  | [] => numeral.whole
  | first :: rest => numeral.whole ++ '.' :: first :: rest

/-- The numeral at the front of a text, and what follows it. -/
def read (source : Text) : Numeral × Text :=
  let whole := source.takeWhile Character.isDigit
  match source.dropWhile Character.isDigit with
  | '.' :: digit :: rest =>
      if Character.isDigit digit then
        (⟨whole, digit :: rest.takeWhile Character.isDigit⟩,
          rest.dropWhile Character.isDigit)
      else (⟨whole, []⟩, '.' :: digit :: rest)
  | rest => (⟨whole, []⟩, rest)

/-- The numeral that is written exactly as `text`; without a digit in front there
is none. -/
def ofText? (text : Text) : Option Numeral :=
  match read text with
  | (numeral, []) => if numeral.whole = [] then none else some numeral
  | _ => none

/-- The binary64 number nearest to the value of a numeral. -/
def nearest (numeral : Numeral) : Binary64 :=
  Binary64.nearest (Decimal.value (numeral.whole ++ numeral.fraction))
    (Decimal.powerOfTen numeral.fraction.length)

/-- The numeral of a count of units of `10 ^ (-places)`, without superfluous
zeros. -/
def ofUnits (places count : Nat) : Numeral where
  whole := Decimal.digits (count / Decimal.powerOfTen places)
  fraction :=
    Decimal.trimmed (Decimal.padded places (count % Decimal.powerOfTen places))

theorem text_append_read (source : Text) :
    (read source).1.text ++ (read source).2 = source := by
  have joined := List.takeWhile_append_dropWhile (p := Character.isDigit) (l := source)
  unfold read
  split
  · rename_i digit rest after
    rw [after] at joined
    split
    · simp only [text, List.append_assoc, List.cons_append,
        List.takeWhile_append_dropWhile]
      exact joined
    · exact joined
  · exact joined

end Numeral
end LoxLexer
