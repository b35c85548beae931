import LoxLexer.Character

/-! # Whole numbers in decimal -/

namespace LoxLexer
namespace Decimal

def powerOfTen (places : Nat) : Nat :=
  Nat.pow 10 places

/-- The decimal digits of a number, without leading zeros. -/
def digits (number : Nat) : Text :=
  Nat.toDigits 10 number

/-- The number that a row of decimal digits stands for. -/
def value (row : Text) : Nat :=
  Nat.ofDigitChars 10 row 0

/-- The digits of a number, with zeros in front up to `width`. -/
def padded (width number : Nat) : Text :=
  let row := digits number
  List.replicate (width - row.length) '0' ++ row

/-- A row of digits without the zeros at its end. -/
def trimmed (row : Text) : Text :=
  (row.reverse.dropWhile fun digit => digit == '0').reverse

theorem powerOfTen_pos (places : Nat) :
    0 < powerOfTen places :=
  Nat.pow_pos (by decide)

@[simp] theorem value_digits (number : Nat) :
    value (digits number) = number :=
  Nat.ofDigitChars_toDigits (by decide) (by decide)

theorem digits_injective {left right : Nat}
    (same : digits left = digits right) :
    left = right := by
  rw [← value_digits left, same, value_digits]

end Decimal
end LoxLexer
