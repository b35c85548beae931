import LoxLexer.Number.Binary64
import Mathlib.Algebra.Order.Ring.Nat
import Mathlib.Order.Monotone.Basic

/-!
# The order of patterns

Within a binade the values of patterns are evenly spaced, and the last pattern of
a binade is followed by the first of the next.  A larger pattern therefore has the
larger value.
-/

namespace LoxLexer
namespace Binary64

theorem binade_pos :
    0 < binade := by
  decide

theorem infinity_pos :
    0 < infinity := by
  decide

theorem lt_signWeight_of_finite {pattern : Nat} (finite : pattern < infinity) :
    pattern < signWeight :=
  Nat.lt_trans finite (by decide)

theorem units_subnormal {pattern : Nat} (subnormal : pattern < binade) :
    units pattern = pattern := by
  simp [units, Nat.div_eq_of_lt subnormal]

theorem units_normal (shift : Nat) {place : Nat} (inside : place < binade) :
    units ((shift + 1) * binade + place) = (binade + place) * 2 ^ shift := by
  have exponent : ((shift + 1) * binade + place) / binade = shift + 1 := by
    rw [Nat.mul_comm, Nat.mul_add_div binade_pos, Nat.div_eq_of_lt inside, Nat.add_zero]
  simp [units, exponent, Nat.mul_add_mod_of_lt inside, Nat.shiftLeft_eq]

/-- A pattern given by the spacing of its binade and the number of spacings below
it.  The place behind the last one of a binade is allowed, because it is the first
place of the next binade. -/
theorem units_shift
    (shift : Nat) {offset : Nat} (normal : shift = 0 ∨ binade ≤ offset)
    (inside : offset ≤ 2 * binade) :
    units (shift * binade + offset) = offset * 2 ^ shift := by
  rcases Nat.lt_or_ge offset binade with subnormal | above
  · have flat : shift = 0 := by omega
    simp [flat, units_subnormal subnormal]
  · obtain ⟨place, rfl⟩ := Nat.exists_eq_add_of_le above
    rw [← Nat.add_assoc, ← Nat.succ_mul]
    rcases Nat.lt_or_ge place binade with proper | carry
    · exact units_normal shift proper
    · have last : place = binade := by omega
      have first := units_normal (shift + 1) binade_pos
      simp only [Nat.add_zero] at first
      rw [last, ← Nat.succ_mul, first, Nat.pow_succ, Nat.mul_comm (2 ^ shift),
        ← Nat.mul_assoc, Nat.mul_two]

theorem exists_shift (pattern : Nat) :
    ∃ shift offset, pattern = shift * binade + offset ∧
      (shift = 0 ∨ binade ≤ offset) ∧ offset < 2 * binade := by
  refine ⟨pattern / binade - 1, pattern - (pattern / binade - 1) * binade, ?_⟩
  simp only [binade]
  omega

theorem units_lt_units_succ (pattern : Nat) :
    units pattern < units (pattern + 1) := by
  obtain ⟨shift, offset, rfl, normal, inside⟩ := exists_shift pattern
  rw [Nat.add_assoc, units_shift shift normal (by omega),
    units_shift shift (by omega) inside]
  exact Nat.mul_lt_mul_of_pos_right (Nat.lt_succ_self offset) (Nat.two_pow_pos shift)

theorem strictMono_units :
    StrictMono units :=
  strictMono_nat_of_lt_succ units_lt_units_succ

@[simp] theorem units_lt_units_iff {left right : Nat} :
    units left < units right ↔ left < right :=
  strictMono_units.lt_iff_lt

@[simp] theorem units_le_units_iff {left right : Nat} :
    units left ≤ units right ↔ left ≤ right :=
  strictMono_units.le_iff_le

@[simp] theorem units_inj {left right : Nat} :
    units left = units right ↔ left = right :=
  strictMono_units.injective.eq_iff

/-! ## The end of the finite patterns -/

theorem units_infinity :
    units infinity = 2 ^ 53 * 2 ^ 2045 := by
  have last : infinity = 2045 * binade + 2 ^ 53 := by decide
  rw [last]
  exact units_shift 2045 (.inr (by decide)) (by decide)

theorem units_largest :
    units (infinity - 1) = (2 ^ 53 - 1) * 2 ^ 2045 := by
  have largest : infinity - 1 = 2045 * binade + (2 ^ 53 - 1) := by decide
  rw [largest]
  exact units_shift 2045 (.inr (by decide)) (by decide)

end Binary64
end LoxLexer
