import LoxLexer.Number.Rounding
import LoxLexer.Proofs.Patterns
import Mathlib.Algebra.Order.Field.Rat
import Mathlib.Tactic.FieldSimp
import Mathlib.Tactic.Linarith
import Mathlib.Tactic.Ring

/-!
# Where rounding passes from one pattern to the next

The pattern nearest to a fraction lies beyond a given pattern just where the
fraction lies beyond the midpoint to the next one; on the midpoint itself the even
pattern is taken.  The midpoints alone therefore determine the rounding.
-/

namespace LoxLexer
namespace Binary64

/-! ## Whole quotients -/

/-- A quotient is rounded up beyond the midpoint of two whole numbers, and on it
where the lower one is odd. -/
theorem roundHalfEven_eq (numerator denominator : Nat) :
    roundHalfEven numerator denominator = numerator / denominator +
      if (2 * (numerator / denominator) + 1) * denominator < 2 * numerator ∨
        (2 * (numerator / denominator) + 1) * denominator = 2 * numerator ∧
          numerator / denominator % 2 = 1 then 1 else 0 := by
  have divided := Nat.div_add_mod numerator denominator
  rw [Nat.mul_comm] at divided
  have middle : (2 * (numerator / denominator) + 1) * denominator =
      2 * (numerator / denominator * denominator) + denominator := by
    ring
  rw [roundHalfEven, middle]
  generalize numerator / denominator * denominator = multiple at *
  split <;> split <;> omega

/-- The spacing chosen for a quotient is that of the binade which it lies in. -/
theorem quotient_inside (quotient : Nat) :
    (Nat.log2 quotient - 52 = 0 ∨
      binade ≤ quotient / 2 ^ (Nat.log2 quotient - 52)) ∧
    quotient / 2 ^ (Nat.log2 quotient - 52) < 2 * binade := by
  have hidden : binade = 2 ^ 52 := rfl
  rw [hidden]
  constructor
  · rcases Nat.eq_zero_or_pos (Nat.log2 quotient - 52) with flat | positive
    · exact .inl flat
    · right
      have nonzero : quotient ≠ 0 := by
        rintro rfl
        simp at positive
      rw [Nat.le_div_iff_mul_le (Nat.two_pow_pos _), ← Nat.pow_add,
        Nat.add_sub_cancel' (by omega)]
      exact Nat.log2_self_le nonzero
  · rw [Nat.div_lt_iff_lt_mul (Nat.two_pow_pos _), ← Nat.pow_succ', ← Nat.pow_add]
    calc quotient
        < 2 ^ (Nat.log2 quotient + 1) := Nat.lt_log2_self
      _ ≤ 2 ^ (52 + 1 + (Nat.log2 quotient - 52)) :=
          Nat.pow_le_pow_right (by decide) (by omega)

/-! ## Midpoints -/

/-- The value, in units, halfway between a pattern and the next one. -/
def midpoint (pattern : Nat) : ℚ :=
  (units pattern + units (pattern + 1)) / 2

/-- A quantity of units is rounded past a pattern: it lies beyond the midpoint to
the next one, or on it while the pattern is odd. -/
def Passes (quantity : ℚ) (pattern : Nat) : Prop :=
  midpoint pattern < quantity ∨ midpoint pattern = quantity ∧ pattern % 2 = 1

theorem two_mul_midpoint (pattern : Nat) :
    2 * midpoint pattern = units pattern + units (pattern + 1) := by
  rw [midpoint]
  ring

theorem units_lt_midpoint (pattern : Nat) :
    (units pattern : ℚ) < midpoint pattern := by
  have next : (units pattern : ℚ) < units (pattern + 1) := by simp
  have middle := two_mul_midpoint pattern
  linarith

theorem midpoint_lt_units_succ (pattern : Nat) :
    midpoint pattern < units (pattern + 1) := by
  have next : (units pattern : ℚ) < units (pattern + 1) := by simp
  have middle := two_mul_midpoint pattern
  linarith

section Floor

variable {quantity : ℚ} {lower pattern : Nat}

theorem Passes.units_lt (passes : Passes quantity pattern) :
    units pattern < quantity := by
  have own := units_lt_midpoint pattern
  rcases passes with beyond | ⟨onto, _⟩ <;> linarith

theorem passes_of_lt
    (above : units lower ≤ quantity) (before : pattern < lower) :
    Passes quantity pattern := by
  have next : (units (pattern + 1) : ℚ) ≤ units lower := by
    simpa [Nat.succ_le_iff] using before
  exact .inl ((midpoint_lt_units_succ pattern).trans_le (next.trans above))

theorem not_passes_of_lt
    (below : quantity < units (lower + 1)) (behind : lower < pattern) :
    ¬ Passes quantity pattern := by
  have next : (units (lower + 1) : ℚ) ≤ units pattern := by
    simpa [Nat.succ_le_iff] using behind
  intro passes
  have own := passes.units_lt
  linarith

theorem Passes.of_le (passes : Passes quantity lower) (ordered : pattern ≤ lower) :
    Passes quantity pattern := by
  rcases Nat.lt_or_eq_of_le ordered with before | rfl
  · exact passes_of_lt passes.units_lt.le before
  · exact passes

end Floor

section Spacing

variable {shift offset : Nat} (normal : shift = 0 ∨ binade ≤ offset)
  (inside : offset < 2 * binade)

include normal inside

theorem midpoint_shift :
    midpoint (shift * binade + offset) = (2 * offset + 1 : Nat) * 2 ^ shift / 2 := by
  rw [midpoint, Nat.add_assoc, units_shift shift normal (by omega),
    units_shift shift (by omega) inside]
  push_cast
  ring

/-- Within a binade it is the number of spacings that is rounded. -/
theorem passes_shift_iff {scaled denominator : Nat} (positive : 0 < denominator) :
    Passes (scaled / denominator) (shift * binade + offset) ↔
      (2 * offset + 1) * (denominator * 2 ^ shift) < 2 * scaled ∨
        (2 * offset + 1) * (denominator * 2 ^ shift) = 2 * scaled ∧ offset % 2 = 1 := by
  have divisor : (0 : ℚ) < denominator := by exact_mod_cast positive
  have parity : (shift * binade + offset) % 2 = offset % 2 := by
    simp only [binade]
    omega
  have crossed : ((2 * offset + 1) * (denominator * 2 ^ shift) : Nat) =
      2 * (midpoint (shift * binade + offset) * denominator) := by
    rw [midpoint_shift normal inside]
    push_cast
    ring
  rw [Passes, parity, lt_div_iff₀ divisor, eq_div_iff divisor.ne']
  generalize midpoint (shift * binade + offset) * denominator = middle at crossed
  have beyond : (2 * offset + 1) * (denominator * 2 ^ shift) < 2 * scaled ↔
      middle < scaled := by
    rw [← @Nat.cast_lt ℚ, crossed, Nat.cast_mul, Nat.cast_two]
    exact mul_lt_mul_iff_right₀ two_pos
  have onto : (2 * offset + 1) * (denominator * 2 ^ shift) = 2 * scaled ↔
      middle = scaled := by
    rw [← @Nat.cast_inj ℚ, crossed, Nat.cast_mul, Nat.cast_two]
    exact mul_right_inj' two_ne_zero
  rw [beyond, onto]

end Spacing

/-! ## The nearest pattern -/

section Fraction

variable {denominator : Nat} (positive : 0 < denominator)

include positive

open Classical in
/-- A fraction lies between the values of two adjacent patterns, and rounding
chooses one of these. -/
theorem exists_floor (scaled : Nat) :
    ∃ lower, (units lower : ℚ) ≤ scaled / denominator ∧
      (scaled / denominator : ℚ) < units (lower + 1) ∧
      (Nat.log2 (scaled / denominator) - 52) * binade +
          roundHalfEven scaled (denominator <<< (Nat.log2 (scaled / denominator) - 52)) =
        lower + if Passes (scaled / denominator) lower then 1 else 0 := by
  have divisor : (0 : ℚ) < denominator := by exact_mod_cast positive
  obtain ⟨normal, inside⟩ := quotient_inside (scaled / denominator)
  generalize Nat.log2 (scaled / denominator) - 52 = shift at *
  rw [Nat.div_div_eq_div_mul] at normal inside
  have spacing : 0 < denominator * 2 ^ shift :=
    Nat.mul_pos positive (Nat.two_pow_pos shift)
  have regrouped (count : Nat) : ((count * 2 ^ shift : Nat) : ℚ) * denominator =
      (count * (denominator * 2 ^ shift) : Nat) := by
    push_cast
    ring
  refine ⟨shift * binade + scaled / (denominator * 2 ^ shift), ?_, ?_, ?_⟩
  · rw [units_shift shift normal inside.le, le_div_iff₀ divisor, regrouped]
    exact_mod_cast Nat.div_mul_le_self scaled _
  · rw [Nat.add_assoc, units_shift shift (by omega) inside, div_lt_iff₀ divisor, regrouped]
    exact_mod_cast Nat.lt_mul_of_div_lt (Nat.lt_succ_self _) spacing
  · simp only [passes_shift_iff normal inside positive]
    rw [Nat.shiftLeft_eq, roundHalfEven_eq, Nat.add_assoc]

/-- A pattern lies before the nearest one just where the fraction is rounded past
it. -/
theorem lt_nearestPattern_iff
    {pattern : Nat} (finite : pattern < infinity) (numerator : Nat) :
    pattern < nearestPattern numerator denominator ↔
      Passes ((numerator <<< 1074 : Nat) / denominator) pattern := by
  obtain ⟨lower, above, below, rounded⟩ := exists_floor positive (numerator <<< 1074)
  rw [nearestPattern, rounded, Nat.lt_min]
  rcases Nat.lt_trichotomy pattern lower with before | rfl | behind
  · have passes := passes_of_lt above before
    constructor
    · exact fun _ => passes
    · exact fun _ => ⟨finite, by omega⟩
  · by_cases passes : Passes ((numerator <<< 1074 : Nat) / denominator) pattern
    · rw [if_pos passes]
      exact iff_of_true ⟨finite, Nat.lt_succ_self pattern⟩ passes
    · rw [if_neg passes]
      exact iff_of_false (fun behind => Nat.lt_irrefl pattern behind.2) passes
  · have short := not_passes_of_lt below behind
    constructor
    · rintro ⟨_, rounded⟩
      split at rounded <;> omega
    · exact fun passes => absurd passes short

end Fraction

end Binary64
end LoxLexer
