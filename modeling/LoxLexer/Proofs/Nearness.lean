import LoxLexer.Proofs.Rounding
import Mathlib.Algebra.Order.Ring.Abs

/-!
# The nearest pattern

To be the nearest of all finite patterns, and the even one of two that are equally
near, is the same as to lie behind just those patterns which the quantity is rounded
past.  The largest finite pattern has no finite neighbour above it, so a quantity
that is rounded past it has to be excluded.
-/

namespace LoxLexer
namespace Binary64

/-! ## Distances -/

section Distance

variable {left right quantity : ℚ} (ordered : left < right)

include ordered

theorem abs_right_le_iff :
    |right - quantity| ≤ |left - quantity| ↔ left + right ≤ 2 * quantity := by
  have squares : (left - quantity) ^ 2 - (right - quantity) ^ 2 =
      (right - left) * (2 * quantity - (left + right)) := by
    ring
  rw [← sq_le_sq, ← sub_nonneg, squares, mul_nonneg_iff_of_pos_left (sub_pos.mpr ordered),
    sub_nonneg]

theorem abs_left_le_iff :
    |left - quantity| ≤ |right - quantity| ↔ 2 * quantity ≤ left + right := by
  have squares : (right - quantity) ^ 2 - (left - quantity) ^ 2 =
      (right - left) * (left + right - 2 * quantity) := by
    ring
  rw [← sq_le_sq, ← sub_nonneg, squares, mul_nonneg_iff_of_pos_left (sub_pos.mpr ordered),
    sub_nonneg]

theorem abs_left_eq_iff :
    |left - quantity| = |right - quantity| ↔ left + right = 2 * quantity := by
  rw [le_antisymm_iff, le_antisymm_iff, abs_left_le_iff ordered, abs_right_le_iff ordered,
    and_comm]

end Distance

/-! ## The nearest of all finite patterns -/

/-- No finite pattern is closer to a quantity of units, and one that is as close as
another is even. -/
structure IsNearest (quantity : ℚ) (pattern : Nat) : Prop where
  nearest : ∀ other < infinity,
    |units pattern - quantity| ≤ |units other - quantity|
  even : ∀ other < infinity, other ≠ pattern →
    |units pattern - quantity| = |units other - quantity| → pattern % 2 = 0

namespace IsNearest

variable {quantity : ℚ} {pattern other : Nat} (isNearest : IsNearest quantity pattern)

include isNearest

theorem passes_of_lt (finite : other < infinity) (before : other < pattern) :
    Passes quantity other := by
  have smaller : (units other : ℚ) < units pattern := by simpa using before
  have next : (units (other + 1) : ℚ) ≤ units pattern := by
    simpa [Nat.succ_le_iff] using before
  have balance := (abs_right_le_iff smaller).mp (isNearest.nearest other finite)
  have middle := two_mul_midpoint other
  rcases lt_or_eq_of_le (show midpoint other ≤ quantity by linarith) with beyond | onto
  · exact .inl beyond
  · have same : (units (other + 1) : ℚ) = units pattern := by linarith
    have adjacent : other + 1 = pattern := by simpa using same
    have even := isNearest.even other finite before.ne
      ((abs_left_eq_iff smaller).mpr (by linarith)).symm
    exact .inr ⟨onto, by omega⟩

theorem not_passes_of_le (finite : other + 1 < infinity) (behind : pattern ≤ other) :
    ¬ Passes quantity other := by
  have larger : (units pattern : ℚ) < units (other + 1) := by
    simpa [Nat.lt_succ_iff] using behind
  have own : (units pattern : ℚ) ≤ units other := by simpa using behind
  have balance := (abs_left_le_iff larger).mp (isNearest.nearest _ finite)
  have middle := two_mul_midpoint other
  rintro (beyond | ⟨onto, odd⟩)
  · linarith
  · have same : (units pattern : ℚ) = units other := by linarith
    have equal : pattern = other := by simpa using same
    have even := isNearest.even _ finite (by omega)
      ((abs_left_eq_iff larger).mpr (by linarith))
    omega

/-- Only the neighbours of the nearest pattern decide, so that the midpoints to them
hold for every finite pattern. -/
theorem passing (short : ¬ Passes quantity (infinity - 1)) :
    ∀ other < infinity, other < pattern ↔ Passes quantity other := by
  intro other finite
  constructor
  · exact isNearest.passes_of_lt finite
  · intro passes
    by_contra behind
    by_cases last : other = infinity - 1
    · exact short (last ▸ passes)
    · exact isNearest.not_passes_of_le (by omega) (Nat.le_of_not_lt behind) passes

end IsNearest

/-! ## From midpoints to distances -/

section Passing

variable {quantity : ℚ} {pattern other : Nat}
  (passing : ∀ other < infinity, other < pattern ↔ Passes quantity other)

include passing

/-- A smaller pattern is not closer: the quantity lies beyond the middle of both. -/
theorem balance_below (finite : pattern < infinity) (before : other < pattern) :
    units other + units pattern ≤ 2 * quantity ∧
      (units other + units pattern = 2 * quantity → pattern % 2 = 0) := by
  obtain ⟨previous, rfl⟩ : ∃ previous, pattern = previous + 1 :=
    Nat.exists_eq_succ_of_ne_zero (by omega)
  have smaller : (units other : ℚ) ≤ units previous := by
    simpa using Nat.le_of_lt_succ before
  have middle := two_mul_midpoint previous
  rcases (passing previous (by omega)).mp (Nat.lt_succ_self previous) with
    beyond | ⟨onto, odd⟩
  · exact ⟨by linarith, fun _ => by linarith⟩
  · exact ⟨by linarith, fun _ => by omega⟩

/-- Nor is a larger one. -/
theorem balance_above (finite : pattern < infinity) (behind : pattern < other) :
    2 * quantity ≤ units pattern + units other ∧
      (units pattern + units other = 2 * quantity → pattern % 2 = 0) := by
  have larger : (units (pattern + 1) : ℚ) ≤ units other := by
    simpa [Nat.succ_le_iff] using behind
  have middle := two_mul_midpoint pattern
  have short := (passing pattern finite).not.mp (Nat.lt_irrefl pattern)
  rw [Passes, not_or, not_and] at short
  obtain ⟨below, even⟩ := short
  refine ⟨by linarith, fun tie => ?_⟩
  have onto : midpoint pattern = quantity := by linarith
  have notOdd := even onto
  omega

theorem isNearest_of_passing (finite : pattern < infinity) :
    IsNearest quantity pattern := by
  constructor
  · intro other inside
    rcases Nat.lt_trichotomy other pattern with before | rfl | behind
    · have smaller : (units other : ℚ) < units pattern := by simpa using before
      exact (abs_right_le_iff smaller).mpr (balance_below passing finite before).1
    · exact le_rfl
    · have larger : (units pattern : ℚ) < units other := by simpa using behind
      exact (abs_left_le_iff larger).mpr (balance_above passing finite behind).1
  · intro other inside different tie
    rcases Nat.lt_or_gt_of_ne different with before | behind
    · have smaller : (units other : ℚ) < units pattern := by simpa using before
      exact (balance_below passing finite before).2 ((abs_left_eq_iff smaller).mp tie.symm)
    · have larger : (units pattern : ℚ) < units other := by simpa using behind
      exact (balance_above passing finite behind).2 ((abs_left_eq_iff larger).mp tie)

end Passing

end Binary64
end LoxLexer
