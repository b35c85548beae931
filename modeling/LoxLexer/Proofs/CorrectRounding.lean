import LoxLexer.Proofs.Nearness
import Mathlib.Algebra.Order.Field.Basic
import Mathlib.Tactic.NormNum

/-!
# Correct rounding

The value of a number is read off its bits: sign, exponent and fraction.  A number is
the rounding of a value if no finite number is closer, the significand being even
where another one is as close.  Values from half a spacing behind the largest finite
number are rounded to infinity, and those up to half of the smallest number to zero.

Exactly one number is the rounding of a given value, and `nearest` is that number.
-/

namespace LoxLexer
namespace Binary64

/-! ## Values of bit patterns -/

/-- The eleven bits below the sign. -/
def exponentField (number : Binary64) : Nat :=
  number.bits.toNat / 2 ^ 52 % 2 ^ 11

/-- The fifty-two bits below the exponent. -/
def fractionField (number : Binary64) : Nat :=
  number.bits.toNat % 2 ^ 52

/-- The fraction together with the hidden bit of a normal number. -/
def significand (number : Binary64) : Nat :=
  if number.exponentField = 0 then number.fractionField
  else 2 ^ 52 + number.fractionField

/-- The value of a finite number without its sign.  An exponent field of zero marks
zero and the subnormal numbers. -/
def magnitude (number : Binary64) : ℚ :=
  if number.exponentField = 0 then number.fractionField / 2 ^ 52 * 2 ^ (-1022 : ℤ)
  else (1 + number.fractionField / 2 ^ 52) * 2 ^ ((number.exponentField : ℤ) - 1023)

/-- The value of a finite number. -/
def value (number : Binary64) : ℚ :=
  if number.isNegative then -number.magnitude else number.magnitude

section Fields

variable (number : Binary64)

theorem pattern_div_binade :
    number.pattern / binade = number.exponentField := by
  simp only [pattern, exponentField, signWeight, binade]
  omega

theorem pattern_mod_binade :
    number.pattern % binade = number.fractionField := by
  simp only [pattern, fractionField, signWeight, binade]
  omega

theorem pattern_eq_fields :
    number.pattern = number.exponentField * binade + number.fractionField := by
  rw [← pattern_div_binade, ← pattern_mod_binade, Nat.div_add_mod']

theorem fractionField_lt_binade :
    number.fractionField < binade :=
  Nat.mod_lt _ binade_pos

theorem significand_mod_two :
    number.significand % 2 = number.pattern % 2 := by
  rw [significand, pattern_eq_fields]
  simp only [binade]
  split <;> omega

end Fields

theorem unit_pos :
    (0 : ℚ) < 2 ^ 1074 := by
  positivity

/-- The smallest normal number, as a number of units. -/
theorem smallestNormal_eq :
    (2 : ℚ) ^ (-1022 : ℤ) = 2 ^ 52 / 2 ^ 1074 := by
  have divided : (2 : ℚ) ^ ((52 : ℤ) - 1074) = 2 ^ (52 : ℤ) / 2 ^ (1074 : ℤ) :=
    zpow_sub₀ two_ne_zero 52 1074
  exact divided

/-- The magnitude of a number is the value of its pattern. -/
theorem magnitude_eq_units (number : Binary64) :
    number.magnitude = units number.pattern / 2 ^ 1074 := by
  rw [magnitude, pattern_eq_fields]
  have inside := fractionField_lt_binade number
  generalize number.fractionField = fraction at *
  cases number.exponentField with
  | zero =>
      rw [if_pos rfl, Nat.zero_mul, Nat.zero_add, units_subnormal inside, smallestNormal_eq]
      field_simp
  | succ shift =>
      have exponent : ((shift + 1 : Nat) : ℤ) - 1023 = shift + -1022 := by
        push_cast
        ring
      rw [if_neg (Nat.succ_ne_zero shift), units_normal shift inside, exponent,
        zpow_add₀ two_ne_zero, smallestNormal_eq, zpow_natCast]
      have hidden : (binade : ℚ) = 2 ^ 52 := by norm_num [binade]
      push_cast
      rw [hidden]
      field_simp

theorem magnitude_inj {left right : Binary64} :
    left.magnitude = right.magnitude ↔ left.pattern = right.pattern := by
  rw [magnitude_eq_units, magnitude_eq_units, div_left_inj' unit_pos.ne', Nat.cast_inj, units_inj]

/-- The distance of a magnitude from an amount, counted in units. -/
theorem distance_magnitude (number : Binary64) (amount : ℚ) :
    |number.magnitude - amount| =
      |units number.pattern - amount * 2 ^ 1074| / 2 ^ 1074 := by
  have scaled : units number.pattern - amount * 2 ^ 1074 =
      (number.magnitude - amount) * 2 ^ 1074 := by
    rw [magnitude_eq_units, sub_mul, div_mul_cancel₀ _ unit_pos.ne']
  rw [scaled, abs_mul, abs_of_pos unit_pos, mul_div_cancel_right₀ _ unit_pos.ne']

theorem value_of_unsigned
    {number : Binary64} (unsigned : number.isNegative = false) :
    number.value = number.magnitude := by
  rw [value, unsigned]
  exact if_neg Bool.false_ne_true

theorem value_eq_or_neg (number : Binary64) :
    number.value = number.magnitude ∨ number.value = -number.magnitude := by
  rw [value]
  split
  · exact .inr rfl
  · exact .inl rfl

theorem magnitude_nonneg (number : Binary64) :
    0 ≤ number.magnitude := by
  rw [magnitude_eq_units]
  positivity

theorem abs_value (number : Binary64) :
    |number.value| = number.magnitude := by
  rcases value_eq_or_neg number with plain | mirrored
  · rw [plain, abs_of_nonneg number.magnitude_nonneg]
  · rw [mirrored, abs_neg, abs_of_nonneg number.magnitude_nonneg]

/-- The value of the first pattern is zero, with a sign bit as without one. -/
theorem value_eq_zero_iff (number : Binary64) :
    number.value = 0 ↔ number.pattern = 0 := by
  have first : units 0 = 0 := units_subnormal binade_pos
  rw [← abs_eq_zero, abs_value, magnitude_eq_units, div_eq_zero_iff,
    or_iff_left unit_pos.ne', Nat.cast_eq_zero]
  nth_rewrite 1 [← first]
  exact units_inj

theorem pattern_lt_infinity_iff (number : Binary64) :
    number.pattern < infinity ↔ number.exponentField < 2047 := by
  have last : infinity = 2047 * binade := by decide
  rw [← pattern_div_binade, Nat.div_lt_iff_lt_mul binade_pos, last]

theorem toNat_bits_of_unsigned
    {number : Binary64} (unsigned : number.isNegative = false) :
    number.bits.toNat = number.pattern := by
  have small : number.bits.toNat < signWeight := by
    simpa [isNegative] using unsigned
  exact (Nat.mod_eq_of_lt small).symm

/-! ## The limits of rounding -/

section Limits

variable {pattern : Nat} (amount : ℚ)

theorem passes_iff_of_odd (odd : pattern % 2 = 1) :
    Passes (amount * 2 ^ 1074) pattern ↔ midpoint pattern / 2 ^ 1074 ≤ amount := by
  rw [div_le_iff₀ unit_pos, Passes, le_iff_lt_or_eq]
  simp only [odd, and_true]

theorem passes_iff_of_even (even : pattern % 2 = 0) :
    Passes (amount * 2 ^ 1074) pattern ↔ midpoint pattern / 2 ^ 1074 < amount := by
  rw [div_lt_iff₀ unit_pos, Passes]
  simp only [even, Nat.zero_ne_one, and_false, or_false]

theorem midpoint_of_subnormal (subnormal : pattern < binade) :
    midpoint pattern = pattern + 1 / 2 := by
  have next := units_shift 0 (.inl rfl) (show pattern + 1 ≤ 2 * binade by omega)
  rw [Nat.zero_mul, Nat.zero_add, Nat.pow_zero, Nat.mul_one] at next
  rw [midpoint, units_subnormal subnormal, next]
  push_cast
  ring

theorem half_unit :
    (1 : ℚ) / 2 / 2 ^ 1074 = 1 / 2 ^ 1075 := by
  rw [div_div, ← pow_succ']

/-- On half of the smallest number the even neighbour is zero. -/
theorem passes_zero_iff :
    Passes (amount * 2 ^ 1074) 0 ↔ 1 / 2 ^ 1075 < amount := by
  rw [passes_iff_of_even amount rfl, midpoint_of_subnormal binade_pos, Nat.cast_zero, zero_add,
    half_unit]

/-- On the midpoint above the largest subnormal number the even neighbour is the
smallest normal one. -/
theorem passes_subnormal_iff :
    Passes (amount * 2 ^ 1074) (binade - 1) ↔
      2 ^ (-1022 : ℤ) - 1 / 2 ^ 1075 ≤ amount := by
  have last : ((binade - 1 : Nat) : ℚ) + 1 / 2 = 2 ^ 52 - 1 / 2 := by norm_num [binade]
  rw [passes_iff_of_odd amount rfl, midpoint_of_subnormal (by decide), last, sub_div, half_unit,
    smallestNormal_eq]

theorem midpoint_largest :
    midpoint (infinity - 1) = (2 ^ 1024 - 2 ^ 970) * 2 ^ 1074 := by
  have last : infinity - 1 + 1 = infinity := by decide
  have spacing : (2 : ℚ) ^ 2045 = 2 * (2 ^ 970 * 2 ^ 1074) := by
    rw [← pow_add, ← pow_succ']
  have top : (2 : ℚ) ^ 1024 = 2 ^ 54 * 2 ^ 970 := by
    rw [← pow_add]
  have count : ((2 ^ 53 - 1 + 2 ^ 53 : Nat) : ℚ) = 2 ^ 54 - 1 := by norm_num
  rw [midpoint, last, units_largest, units_infinity, top, ← Nat.cast_add, ← Nat.add_mul,
    Nat.cast_mul, Nat.cast_pow, Nat.cast_two, spacing, count]
  generalize (2 : ℚ) ^ 970 = gap, (2 : ℚ) ^ 1074 = unit
  ring

/-- On the midpoint above the largest finite number the even neighbour is infinity. -/
theorem passes_largest_iff :
    Passes (amount * 2 ^ 1074) (infinity - 1) ↔ 2 ^ 1024 - 2 ^ 970 ≤ amount := by
  rw [passes_iff_of_odd amount (by decide), midpoint_largest,
    mul_div_cancel_right₀ _ unit_pos.ne']

end Limits

/-! ## The place of a value among the patterns -/

/-- A number that lies behind just those patterns which a value is rounded past. -/
structure IsPlaced (amount : ℚ) (number : Binary64) : Prop where
  unsigned : number.isNegative = false
  le_infinity : number.pattern ≤ infinity
  passing : ∀ other < infinity, other < number.pattern ↔ Passes (amount * 2 ^ 1074) other

theorem isPlaced_nearest
    {denominator : Nat} (positive : 0 < denominator) (numerator : Nat) :
    IsPlaced (numerator / denominator) (nearest numerator denominator) where
  unsigned := isNegative_nearest numerator denominator
  le_infinity := by
    rw [pattern_nearest]
    exact nearestPattern_le_infinity numerator denominator
  passing := by
    intro other finite
    have scaled (shift : Nat) : ((numerator <<< shift : Nat) : ℚ) = numerator * 2 ^ shift := by
      rw [Nat.shiftLeft_eq, Nat.cast_mul, Nat.cast_pow, Nat.cast_two]
    rw [pattern_nearest, lt_nearestPattern_iff positive finite, scaled, div_mul_eq_mul_div]

namespace IsPlaced

variable {amount : ℚ} {number other : Binary64} (placed : IsPlaced amount number)

include placed

theorem pattern_le (placedOther : IsPlaced amount other) :
    number.pattern ≤ other.pattern := by
  by_contra behind
  have finite : other.pattern < infinity := by
    have bound := placed.le_infinity
    omega
  have passes := (placed.passing _ finite).mp (by omega)
  exact absurd ((placedOther.passing _ finite).mpr passes) (Nat.lt_irrefl _)

theorem unique (placedOther : IsPlaced amount other) :
    number = other := by
  have same := Nat.le_antisymm (placed.pattern_le placedOther) (placedOther.pattern_le placed)
  rw [← toNat_bits_of_unsigned placed.unsigned,
    ← toNat_bits_of_unsigned placedOther.unsigned] at same
  exact congrArg Binary64.mk (UInt64.toNat_inj.mp same)

theorem bits_eq_infinity_iff :
    number.bits = 0x7ff0000000000000 ↔ 2 ^ 1024 - 2 ^ 970 ≤ amount := by
  rw [← passes_largest_iff, ← placed.passing _ (by decide), ← UInt64.toNat_inj,
    toNat_bits_of_unsigned placed.unsigned]
  have bound := placed.le_infinity
  have last : (0x7ff0000000000000 : UInt64).toNat = infinity := rfl
  have positive := infinity_pos
  omega

theorem bits_eq_zero_iff :
    number.bits = 0 ↔ amount ≤ 1 / 2 ^ 1075 := by
  rw [← not_lt, ← passes_zero_iff, ← placed.passing _ (by decide), ← UInt64.toNat_inj,
    toNat_bits_of_unsigned placed.unsigned, Nat.not_lt, Nat.le_zero]
  rfl

theorem exponentField_eq_zero_iff :
    number.exponentField = 0 ↔ amount < 2 ^ (-1022 : ℤ) - 1 / 2 ^ 1075 := by
  rw [← not_le, ← passes_subnormal_iff, ← placed.passing _ (by decide), ← pattern_div_binade,
    Nat.div_eq_zero_iff]
  have positive := binade_pos
  omega

theorem finite (small : amount < 2 ^ 1024 - 2 ^ 970) :
    number.pattern < infinity := by
  have short := (passes_largest_iff amount).not.mpr small.not_ge
  rw [← placed.passing _ (by decide)] at short
  have positive := infinity_pos
  omega

theorem isNearest (small : amount < 2 ^ 1024 - 2 ^ 970) :
    IsNearest (amount * 2 ^ 1074) number.pattern :=
  isNearest_of_passing placed.passing (placed.finite small)

end IsPlaced

/-! ## The rounding of a value -/

/-- What makes a number the rounding of an amount that is not negative.  It is compared
with every finite number, the negative and the subnormal ones included; a number is
finite when its exponent field is not full. -/
structure IsRounding (amount : ℚ) (number : Binary64) : Prop where
  unsigned : number.isNegative = false
  notNaN : number.isNaN = false
  infinite : number.bits = 0x7ff0000000000000 ↔ 2 ^ 1024 - 2 ^ 970 ≤ amount
  zero : number.bits = 0 ↔ amount ≤ 1 / 2 ^ 1075
  subnormal : number.exponentField = 0 ↔ amount < 2 ^ (-1022 : ℤ) - 1 / 2 ^ 1075
  nearest : amount < 2 ^ 1024 - 2 ^ 970 → ∀ other : Binary64, other.exponentField < 2047 →
    |number.value - amount| ≤ |other.value - amount|
  even : amount < 2 ^ 1024 - 2 ^ 970 → ∀ other : Binary64, other.exponentField < 2047 →
    other.value ≠ number.value → |number.value - amount| = |other.value - amount| →
      number.significand % 2 = 0

theorem exponentField_ofPattern {pattern : Nat} (finite : pattern < infinity) :
    (ofPattern pattern).exponentField < 2047 := by
  rw [← pattern_lt_infinity_iff, pattern_ofPattern (lt_signWeight_of_finite finite)]
  exact finite

/-- A sign only takes a number away from a value that is not negative. -/
theorem distance_magnitude_le
    {amount : ℚ} (nonnegative : 0 ≤ amount) (number : Binary64) :
    |number.magnitude - amount| ≤ |number.value - amount| := by
  have positive := number.magnitude_nonneg
  rcases value_eq_or_neg number with plain | mirrored
  · rw [plain]
  · rw [mirrored, abs_sub_comm (-_), sub_neg_eq_add,
      abs_of_nonneg (add_nonneg nonnegative positive), abs_le]
    constructor <;> linarith

theorem IsRounding.isNearest
    {amount : ℚ} {number : Binary64} (rounding : IsRounding amount number)
    (small : amount < 2 ^ 1024 - 2 ^ 970) :
    IsNearest (amount * 2 ^ 1074) number.pattern := by
  have own := value_of_unsigned rounding.unsigned
  constructor
  · intro other finite
    have inside : other < signWeight := lt_signWeight_of_finite finite
    have nearest := rounding.nearest small _ (exponentField_ofPattern finite)
    rw [own, value_of_unsigned (isNegative_ofPattern inside), distance_magnitude,
      distance_magnitude, pattern_ofPattern inside,
      div_le_div_iff_of_pos_right unit_pos] at nearest
    exact nearest
  · intro other finite different tie
    have inside : other < signWeight := lt_signWeight_of_finite finite
    rw [← significand_mod_two]
    apply rounding.even small _ (exponentField_ofPattern finite)
    · rw [own, value_of_unsigned (isNegative_ofPattern inside), Ne, magnitude_inj,
        pattern_ofPattern inside]
      exact different
    · rw [own, value_of_unsigned (isNegative_ofPattern inside), distance_magnitude,
        distance_magnitude, pattern_ofPattern inside, tie]

theorem IsRounding.isPlaced
    {amount : ℚ} {number : Binary64} (rounding : IsRounding amount number) :
    IsPlaced amount number where
  unsigned := rounding.unsigned
  le_infinity := by simpa [isNaN] using rounding.notNaN
  passing := by
    rcases lt_or_ge amount (2 ^ 1024 - 2 ^ 970) with small | large
    · have short := (passes_largest_iff amount).not.mpr small.not_ge
      exact (rounding.isNearest small).passing short
    · intro other finite
      have beyond := (passes_largest_iff amount).mpr large
      have infinite : number.pattern = infinity := by
        rw [pattern, rounding.infinite.mpr large]
        rfl
      rw [infinite]
      exact iff_of_true finite (beyond.of_le (by omega))

section Nearest

variable {amount : ℚ} {number other : Binary64} (placed : IsPlaced amount number)
  (small : amount < 2 ^ 1024 - 2 ^ 970) (finite : other.exponentField < 2047)

include placed small finite

theorem IsPlaced.distance_le :
    |number.value - amount| ≤ |other.magnitude - amount| := by
  rw [value_of_unsigned placed.unsigned, distance_magnitude, distance_magnitude,
    div_le_div_iff_of_pos_right unit_pos]
  exact (placed.isNearest small).nearest _ ((pattern_lt_infinity_iff other).mpr finite)

theorem IsPlaced.even_of_tie
    (different : other.magnitude ≠ number.value)
    (tie : |number.value - amount| = |other.magnitude - amount|) :
    number.significand % 2 = 0 := by
  rw [value_of_unsigned placed.unsigned, Ne, magnitude_inj] at different
  rw [value_of_unsigned placed.unsigned, distance_magnitude, distance_magnitude,
    div_left_inj' unit_pos.ne'] at tie
  rw [significand_mod_two]
  exact (placed.isNearest small).even _ ((pattern_lt_infinity_iff other).mpr finite) different tie

end Nearest

theorem IsPlaced.isRounding
    {amount : ℚ} {number : Binary64} (nonnegative : 0 ≤ amount)
    (placed : IsPlaced amount number) :
    IsRounding amount number where
  unsigned := placed.unsigned
  notNaN := by simpa [isNaN] using placed.le_infinity
  infinite := placed.bits_eq_infinity_iff
  zero := placed.bits_eq_zero_iff
  subnormal := placed.exponentField_eq_zero_iff
  nearest := by
    intro small other finite
    exact (placed.distance_le small finite).trans (distance_magnitude_le nonnegative other)
  even := by
    intro small other finite different tie
    have near := placed.distance_le small finite
    have far := distance_magnitude_le nonnegative other
    by_cases same : other.magnitude = number.value
    · -- The other number is the negative of this one, and only zero is halfway.
      have mirrored := (value_eq_or_neg other).resolve_left (same ▸ different)
      rw [mirrored, same, abs_eq_abs] at tie
      rcases tie with level | level
      · have zero : number.value = 0 := by linarith
        rw [mirrored, same, zero, neg_zero] at different
        exact absurd rfl different
      · have zero : amount = 0 := by linarith
        have clear := placed.bits_eq_zero_iff.mpr (by rw [zero]; positivity)
        rw [significand_mod_two, pattern, clear]
        rfl
    · exact placed.even_of_tie small finite same (by linarith)

end Binary64
end LoxLexer
