import LoxLexer.Number.Numeral

/-! # The shortest decimal form of a number

A finite number is printed with the fewest significant digits that read back to
it.  The search goes through the grids of multiples of a power of ten, from a
coarse one down, and looks at the two multiples next to the exact value; the
first grid that has one which reads back ends it.  Every binary64 interval is
wider than `10 ^ (-324)`, so no finer grid is needed.
-/

namespace LoxLexer
namespace Binary64

/-- The decimal places of the finest grid. -/
def finestPlaces : Nat :=
  324

/-- The exact value of a pattern on the finest grid, still to be divided by
`2 ^ 1074`. -/
def fineValue (pattern : Nat) : Nat :=
  units pattern * Decimal.powerOfTen finestPlaces

/-- Whether a multiple of the finest grid reads back to a pattern. -/
def readsBack (pattern multiple : Nat) : Bool :=
  nearestPattern multiple (Decimal.powerOfTen finestPlaces) == pattern

/-- The best multiple of `10 ^ grid` units that reads back: of the two next to
the exact value the nearer one, and the upper one on a tie. -/
def onGrid? (pattern grid : Nat) : Option Nat :=
  let step := Decimal.powerOfTen grid
  let below := (fineValue pattern >>> 1074) / step * step
  let above := below + step
  match readsBack pattern below, readsBack pattern above with
  | true, true =>
      if 2 * fineValue pattern < (below + above) <<< 1074 then some below
      else some above
  | true, false => some below
  | false, true => some above
  | false, false => none

/-- The multiple found on the coarsest grid not above `10 ^ grid`. -/
def coarsest (pattern : Nat) : (grid : Nat) → Nat
  | 0 => (onGrid? pattern 0).getD (fineValue pattern >>> 1074)
  | grid + 1 => (onGrid? pattern (grid + 1)).getD (coarsest pattern grid)

/-- The shortest numeral that reads back to a finite pattern.  The first grid is
coarser than the exact value itself. -/
def shortest (pattern : Nat) : Numeral :=
  Numeral.ofUnits finestPlaces
    (coarsest pattern (Nat.log2 (fineValue pattern >>> 1074) / 3 + 1))

def text (number : Binary64) : Text :=
  if number.isNaN then "NaN".toList
  else
    (if number.isNegative then ['-'] else []) ++
      (if number.isFinite then (shortest number.pattern).text else "inf".toList)

end Binary64
end LoxLexer
