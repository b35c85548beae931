import LoxLexer.Number.Binary64

/-! # Rounding a fraction to binary64

The nearest number is wanted, a tie going to the even pattern.  Within a binade
the patterns are evenly spaced, so the fraction is divided by that spacing and
rounded to a whole number; a carry out of the binade lands on the first pattern
of the next one, which is the right one.
-/

namespace LoxLexer
namespace Binary64

/-- A quotient rounded to the nearest whole number, a half to the even one. -/
def roundHalfEven (numerator denominator : Nat) : Nat :=
  let quotient := numerator / denominator
  let twice := 2 * (numerator % denominator)
  if twice < denominator ∨ (twice = denominator ∧ quotient % 2 = 0) then quotient
  else quotient + 1

/-- The pattern nearest to `numerator / denominator`.  What rounds past the
largest finite number is infinite. -/
def nearestPattern (numerator denominator : Nat) : Nat :=
  let scaled := numerator <<< 1074
  let shift := Nat.log2 (scaled / denominator) - 52
  min infinity (shift * binade + roundHalfEven scaled (denominator <<< shift))

/-- The non-negative number nearest to `numerator / denominator`. -/
def nearest (numerator denominator : Nat) : Binary64 :=
  ofPattern (nearestPattern numerator denominator)

theorem nearestPattern_le_infinity (numerator denominator : Nat) :
    nearestPattern numerator denominator ≤ infinity :=
  Nat.min_le_left _ _

theorem nearestPattern_lt_signWeight (numerator denominator : Nat) :
    nearestPattern numerator denominator < signWeight :=
  Nat.lt_of_le_of_lt (nearestPattern_le_infinity numerator denominator) (by decide)

theorem isNegative_nearest (numerator denominator : Nat) :
    (nearest numerator denominator).isNegative = false :=
  isNegative_ofPattern (nearestPattern_lt_signWeight numerator denominator)

theorem pattern_nearest (numerator denominator : Nat) :
    (nearest numerator denominator).pattern =
      nearestPattern numerator denominator :=
  pattern_ofPattern (nearestPattern_lt_signWeight numerator denominator)

theorem isNaN_nearest (numerator denominator : Nat) :
    (nearest numerator denominator).isNaN = false := by
  simpa [isNaN, pattern_nearest] using
    nearestPattern_le_infinity numerator denominator

end Binary64
end LoxLexer
