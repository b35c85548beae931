import LoxLexer.Number.Shortest
import LoxLexer.Proofs.Digits
import Mathlib.Tactic.Qify

/-!
# The search for the shortest decimal

The amounts that are rounded to one number form an interval.  A grid has a multiple in
it just where one of the two multiples next to the exact value lies there, so that the
search misses no grid.  A decimal with fewer digits than the multiple that is found
would have a multiple of the next coarser grid beside it in the interval.
-/

namespace LoxLexer
namespace Binary64

/-! ## The amounts that are rounded to one number -/

theorem Passes.mono
    {smaller larger : ℚ} {pattern : Nat}
    (passes : Passes smaller pattern) (ordered : smaller ≤ larger) :
    Passes larger pattern := by
  rcases passes with beyond | ⟨onto, odd⟩
  · exact .inl (beyond.trans_le ordered)
  · rcases lt_or_eq_of_le ordered with further | rfl
    · exact .inl (onto.trans_lt further)
    · exact .inr ⟨onto, odd⟩

theorem IsPlaced.convex
    {low middle high : ℚ} {number : Binary64}
    (placedLow : IsPlaced low number) (placedHigh : IsPlaced high number)
    (above : low ≤ middle) (below : middle ≤ high) :
    IsPlaced middle number where
  unsigned := placedLow.unsigned
  le_infinity := placedLow.le_infinity
  passing := by
    intro other finite
    constructor
    · intro before
      exact ((placedLow.passing other finite).mp before).mono
        (mul_le_mul_of_nonneg_right above unit_pos.le)
    · intro passes
      exact (placedHigh.passing other finite).mpr
        (passes.mono (mul_le_mul_of_nonneg_right below unit_pos.le))

/-- An amount at most half a unit below a number is rounded to it. -/
theorem isPlaced_ofPattern
    {pattern : Nat} (finite : pattern < infinity) {amount : ℚ}
    (near : units pattern - 1 / 2 < amount * 2 ^ 1074)
    (below : amount * 2 ^ 1074 ≤ units pattern) :
    IsPlaced amount (ofPattern pattern) := by
  have small : pattern < signWeight := lt_signWeight_of_finite finite
  refine ⟨isNegative_ofPattern small, ?_, ?_⟩
  · rw [pattern_ofPattern small]
    exact finite.le
  · intro other _
    rw [pattern_ofPattern small]
    generalize amount * 2 ^ 1074 = quantity at *
    constructor
    · intro before
      have spacing : units other + 1 ≤ units (other + 1) := units_lt_units_succ other
      have next : units (other + 1) ≤ units pattern := units_le_units_iff.mpr before
      have spacingCast : (units other + 1 : ℚ) ≤ units (other + 1) := by exact_mod_cast spacing
      have nextCast : (units (other + 1) : ℚ) ≤ units pattern := by exact_mod_cast next
      have middle := two_mul_midpoint other
      exact .inl (by linarith)
    · intro passes
      by_contra behind
      have later : (units pattern : ℚ) ≤ units other := by simpa using behind
      have own := passes.units_lt
      linarith

theorem ne_zero_of_isPlaced
    {amount : ℚ} {pattern : Nat} (finite : pattern < infinity) (nonzero : pattern ≠ 0)
    (placed : IsPlaced amount (ofPattern pattern)) :
    amount ≠ 0 := by
  rintro rfl
  have before := (placed.passing 0 infinity_pos).mp (by
    rw [pattern_ofPattern (lt_signWeight_of_finite finite)]
    exact Nat.pos_of_ne_zero nonzero)
  have positive := before.units_lt
  rw [zero_mul, units_subnormal binade_pos, Nat.cast_zero] at positive
  exact lt_irrefl _ positive

/-! ## Multiples that read back -/

/-- The finest grid has more than two multiples in each unit. -/
theorem two_units_lt_finest :
    2 * 2 ^ 1074 < Decimal.powerOfTen finestPlaces := by
  decide +kernel

/-- On a dense grid a whole multiple is found less than half a unit below any count. -/
theorem shiftRight_near
    {fine shift : Nat} (dense : 2 * 2 ^ shift < fine) (count : Nat) :
    (count - 1 / 2 : ℚ) < ((count * fine) >>> shift : Nat) / fine * 2 ^ shift ∧
      (((count * fine) >>> shift : Nat) / fine * 2 ^ shift : ℚ) ≤ count := by
  have finePositive : (0 : ℚ) < fine := by
    exact_mod_cast (show 0 < fine by omega)
  have above := Nat.div_mul_le_self (count * fine) (2 ^ shift)
  have below := Nat.lt_div_mul_add (a := count * fine) (Nat.two_pow_pos shift)
  rw [Nat.shiftRight_eq_div_pow]
  generalize count * fine / 2 ^ shift = floor at *
  rw [div_mul_eq_mul_div, lt_div_iff₀ finePositive, div_le_iff₀ finePositive]
  qify at above below dense
  constructor <;> linarith

section ReadsBack

variable {pattern : Nat} (finite : pattern < infinity)

include finite

theorem readsBack_iff {multiple : Nat} :
    readsBack pattern multiple = true ↔
      IsPlaced (multiple / Decimal.powerOfTen finestPlaces) (ofPattern pattern) := by
  have placed := isPlaced_nearest (Decimal.powerOfTen_pos finestPlaces) multiple
  constructor
  · intro same
    rw [← eq_of_beq same]
    exact placed
  · intro placedOwn
    have same := congrArg Binary64.pattern (placed.unique placedOwn)
    rw [pattern_nearest, pattern_ofPattern (lt_signWeight_of_finite finite)] at same
    exact beq_iff_eq.mpr same

theorem readsBack_between
    {low middle high : Nat} (lower : readsBack pattern low = true)
    (upper : readsBack pattern high = true) (above : low ≤ middle) (below : middle ≤ high) :
    readsBack pattern middle = true := by
  rw [readsBack_iff finite] at *
  apply lower.convex upper
  · exact div_le_div_of_nonneg_right (by exact_mod_cast above) (Decimal.cast_powerOfTen_pos _).le
  · exact div_le_div_of_nonneg_right (by exact_mod_cast below) (Decimal.cast_powerOfTen_pos _).le

/-- The multiple of the finest grid below the exact value is less than half a unit
away. -/
theorem readsBack_floor :
    readsBack pattern (fineValue pattern >>> 1074) = true := by
  have near := shiftRight_near two_units_lt_finest (units pattern)
  rw [readsBack_iff finite, fineValue]
  exact isPlaced_ofPattern finite near.1 near.2

end ReadsBack

/-! ## The search on one grid -/

/-- A multiple that is found reads back and is next to the exact value; where none is
found, neither of the two next to it reads back. -/
theorem onGrid?_cases
    (pattern grid : Nat) {count : Nat}
    (floor : (fineValue pattern >>> 1074) / Decimal.powerOfTen grid = count) :
    (onGrid? pattern grid = none ∧
      readsBack pattern (count * Decimal.powerOfTen grid) = false ∧
      readsBack pattern ((count + 1) * Decimal.powerOfTen grid) = false) ∨
    ∃ chosen, (chosen = count ∨ chosen = count + 1) ∧
      onGrid? pattern grid = some (chosen * Decimal.powerOfTen grid) ∧
      readsBack pattern (chosen * Decimal.powerOfTen grid) = true := by
  -- The function is opened by itself and the test in it made a variable, because
  -- comparing the open cases with the call would run the test on huge powers.
  generalize found : onGrid? pattern grid = result
  generalize opened : onGrid? = search at found
  delta onGrid? at opened
  subst opened
  beta_reduce at found
  generalize readsBack pattern = reads at found ⊢
  extract_lets step below above at found
  have belowEq : below = count * Decimal.powerOfTen grid := by
    rw [← floor]
  have aboveEq : above = (count + 1) * Decimal.powerOfTen grid := by
    rw [Nat.succ_mul, ← belowEq]
  rw [← belowEq, ← aboveEq]
  clear_value above below
  cases lower : reads below <;> cases upper : reads above <;> rw [lower, upper] at found
  case false.false =>
    exact .inl ⟨found.symm, rfl, rfl⟩
  case false.true =>
    exact .inr ⟨count + 1, .inr rfl, aboveEq ▸ ⟨found.symm, upper⟩⟩
  case true.false =>
    exact .inr ⟨count, .inl rfl, belowEq ▸ ⟨found.symm, lower⟩⟩
  case true.true =>
    right
    rcases ite_eq_or_eq (2 * fineValue pattern < (below + above) <<< 1074)
      (some below) (some above) with nearer | farther
    · exact ⟨count, .inl rfl, belowEq ▸ ⟨found.symm.trans nearer, lower⟩⟩
    · exact ⟨count + 1, .inr rfl, aboveEq ▸ ⟨found.symm.trans farther, upper⟩⟩

theorem exists_count_of_onGrid?
    {pattern grid multiple : Nat} (found : onGrid? pattern grid = some multiple) :
    ∃ count, count ≤ (fineValue pattern >>> 1074) / Decimal.powerOfTen grid + 1 ∧
      multiple = count * Decimal.powerOfTen grid ∧ readsBack pattern multiple = true := by
  rcases onGrid?_cases pattern grid rfl with ⟨missed, _⟩ | ⟨count, near, hit, reads⟩
  · rw [missed] at found
    cases found
  · obtain rfl := Option.some.inj (hit.symm.trans found)
    exact ⟨count, by omega, rfl, reads⟩

section Search

variable {pattern : Nat} (finite : pattern < infinity)

include finite

/-- A grid on which nothing is found has no multiple that reads back. -/
theorem readsBack_of_onGrid?_eq_none
    {grid : Nat} (missed : onGrid? pattern grid = none) (count : Nat) :
    readsBack pattern (count * Decimal.powerOfTen grid) = false := by
  have own := readsBack_floor finite
  generalize floor : (fineValue pattern >>> 1074) / Decimal.powerOfTen grid = lower
  have positive := Decimal.powerOfTen_pos grid
  have above : lower * Decimal.powerOfTen grid ≤ fineValue pattern >>> 1074 :=
    floor ▸ Nat.div_mul_le_self _ _
  have below : fineValue pattern >>> 1074 < (lower + 1) * Decimal.powerOfTen grid := by
    rw [← Nat.div_lt_iff_lt_mul positive, floor]
    exact Nat.lt_succ_self lower
  rcases onGrid?_cases pattern grid floor with ⟨_, missedLower, missedUpper⟩ | ⟨_, _, found, _⟩
  · rw [Bool.eq_false_iff] at *
    intro hit
    rcases Nat.lt_or_ge lower count with beyond | inside
    · exact missedUpper (readsBack_between finite own hit below.le
        (Nat.mul_le_mul_right _ beyond))
    · exact missedLower (readsBack_between finite hit own
        (Nat.mul_le_mul_right _ inside) above)
  · rw [missed] at found
    cases found

/-- On the finest grid there is always a multiple. -/
theorem exists_onGrid?_zero :
    ∃ multiple, onGrid? pattern 0 = some multiple := by
  rw [← Option.ne_none_iff_exists']
  intro missed
  have lost := readsBack_of_onGrid?_eq_none finite missed (fineValue pattern >>> 1074)
  have whole : Decimal.powerOfTen 0 = 1 := rfl
  rw [whole, Nat.mul_one, readsBack_floor finite] at lost
  cases lost

/-- The search ends on the coarsest grid that has a multiple. -/
theorem exists_grid (limit : Nat) :
    ∃ grid, onGrid? pattern grid = some (coarsest pattern limit) ∧
      ∀ coarser, grid < coarser → coarser ≤ limit → onGrid? pattern coarser = none := by
  induction limit with
  | zero =>
      obtain ⟨multiple, found⟩ := exists_onGrid?_zero finite
      refine ⟨0, ?_, by omega⟩
      rw [coarsest, found, Option.getD_some]
  | succ limit inductionHypothesis =>
      rw [coarsest]
      cases found : onGrid? pattern (limit + 1) with
      | none =>
          obtain ⟨grid, hit, missed⟩ := inductionHypothesis
          refine ⟨grid, hit, fun coarser behind inside => ?_⟩
          rcases Nat.lt_or_eq_of_le inside with earlier | rfl
          · exact missed coarser behind (by omega)
          · exact found
      | some multiple =>
          exact ⟨limit + 1, found, by omega⟩

end Search

/-! ## The multiple that is printed -/

/-- The outcome of the search, counted on the finest grid. -/
def shortestCount (pattern : Nat) : Nat :=
  coarsest pattern (Nat.log2 (fineValue pattern >>> 1074) / 3 + 1)

theorem shortest_eq (pattern : Nat) :
    shortest pattern = Numeral.ofUnits finestPlaces (shortestCount pattern) :=
  rfl

/-- The first grid that is searched is coarser than the exact value. -/
theorem floor_lt_firstGrid (pattern : Nat) :
    fineValue pattern >>> 1074 <
      Decimal.powerOfTen (Nat.log2 (fineValue pattern >>> 1074) / 3 + 1) := by
  generalize fineValue pattern >>> 1074 = floor
  calc floor
      < 2 ^ (Nat.log2 floor + 1) := Nat.lt_log2_self
    _ ≤ 2 ^ (3 * (Nat.log2 floor / 3 + 1)) := Nat.pow_le_pow_right (by decide) (by omega)
    _ = 8 ^ (Nat.log2 floor / 3 + 1) := Nat.pow_mul ..
    _ ≤ 10 ^ (Nat.log2 floor / 3 + 1) := Nat.pow_le_pow_left (by decide) _

/-- A decimal that is no finer than the finest grid, as a multiple of it. -/
theorem decimal_eq_multiple
    {exponent : ℤ} {shift : Nat} (aligned : exponent + finestPlaces = shift)
    (mantissa : Nat) :
    (mantissa * 10 ^ exponent : ℚ) =
      (mantissa * Decimal.powerOfTen shift : Nat) / Decimal.powerOfTen finestPlaces := by
  rw [← eq_sub_iff_add_eq] at aligned
  rw [aligned, zpow_sub₀ (by norm_num), zpow_natCast, zpow_natCast, Nat.cast_mul,
    Decimal.cast_powerOfTen, Decimal.cast_powerOfTen, mul_div_assoc]

section Digits

variable {pattern : Nat} (finite : pattern < infinity)

include finite

theorem readsBack_shortestCount :
    readsBack pattern (shortestCount pattern) = true := by
  obtain ⟨grid, found, _⟩ := exists_grid finite _
  obtain ⟨_, _, _, reads⟩ := exists_count_of_onGrid? found
  exact reads

section Rival

variable {mantissa count : Nat} {exponent : ℤ} (small : mantissa < 10 ^ count)
  (placed : IsPlaced (mantissa * 10 ^ exponent) (ofPattern pattern))

include placed

/-- A decimal that is rounded to the pattern lies on no grid that was missed. -/
theorem exponent_le_of_missed
    {grid : Nat} (missed : onGrid? pattern (grid + 1) = none) :
    exponent + finestPlaces ≤ grid := by
  by_contra coarse
  obtain ⟨shift, aligned⟩ : ∃ shift : Nat,
      exponent + finestPlaces = (shift + (grid + 1) : Nat) :=
    ⟨(exponent + finestPlaces - (grid + 1)).toNat, by omega⟩
  have power : Decimal.powerOfTen (shift + (grid + 1)) =
      Decimal.powerOfTen shift * Decimal.powerOfTen (grid + 1) :=
    Nat.pow_add ..
  rw [decimal_eq_multiple aligned, ← readsBack_iff finite, power, ← Nat.mul_assoc,
    readsBack_of_onGrid?_eq_none finite missed] at placed
  cases placed

include small

/-- A decimal with fewer digits than a multiple has a multiple of the next coarser grid
between it and that one. -/
theorem lt_of_missed
    (positive : 0 < count) {grid core : Nat}
    (missed : onGrid? pattern (grid + 1) = none)
    (reads : readsBack pattern (core * Decimal.powerOfTen grid) = true) :
    core < 10 ^ count := by
  by_contra large
  have exponentLe := exponent_le_of_missed finite placed missed
  rw [readsBack_iff finite] at reads
  have between : IsPlaced
      ((10 ^ count * Decimal.powerOfTen grid : Nat) / Decimal.powerOfTen finestPlaces)
      (ofPattern pattern) := by
    apply placed.convex reads
    · have aligned : (grid - finestPlaces : ℤ) + finestPlaces = grid := sub_add_cancel _ _
      rw [← decimal_eq_multiple aligned]
      have mantissaLe : (mantissa : ℚ) ≤ (10 ^ count : Nat) := by exact_mod_cast small.le
      have powerLe : (10 : ℚ) ^ exponent ≤ 10 ^ (grid - finestPlaces : ℤ) :=
        zpow_le_zpow_right₀ (by norm_num) (by omega)
      exact mul_le_mul mantissaLe powerLe (zpow_nonneg (by norm_num) _) (Nat.cast_nonneg _)
    · have coreLe : 10 ^ count * Decimal.powerOfTen grid ≤ core * Decimal.powerOfTen grid :=
        Nat.mul_le_mul_right _ (Nat.le_of_not_lt large)
      exact div_le_div_of_nonneg_right (by exact_mod_cast coreLe) (Decimal.cast_powerOfTen_pos _).le
  obtain ⟨fewer, rfl⟩ := Nat.exists_eq_succ_of_ne_zero positive.ne'
  have shifted : 10 ^ (fewer + 1) * Decimal.powerOfTen grid =
      10 ^ fewer * Decimal.powerOfTen (grid + 1) := by
    rw [Nat.pow_succ, Nat.mul_assoc, Nat.mul_comm 10]
    rfl
  rw [← readsBack_iff finite, Nat.succ_eq_add_one, shifted,
    readsBack_of_onGrid?_eq_none finite missed] at between
  cases between

/-- The multiple that is printed has no more digits than any decimal that is rounded to
the pattern. -/
theorem exists_digits_of_isPlaced (nonzero : pattern ≠ 0) :
    ∃ core shift, shortestCount pattern = core * 10 ^ shift ∧ core < 10 ^ count := by
  have positive : 0 < count := by
    by_contra absent
    have zero : mantissa = 0 := by
      rw [Nat.eq_zero_of_not_pos absent, Nat.pow_zero] at small
      omega
    apply ne_zero_of_isPlaced finite nonzero placed
    rw [zero, Nat.cast_zero, zero_mul]
  obtain ⟨grid, found, finer⟩ :=
    exists_grid finite (Nat.log2 (fineValue pattern >>> 1074) / 3 + 1)
  obtain ⟨core, near, worth, reads⟩ := exists_count_of_onGrid? found
  refine ⟨core, grid, worth, ?_⟩
  by_cases missed : onGrid? pattern (grid + 1) = none
  · rw [worth] at reads
    exact lt_of_missed finite small placed positive missed reads
  · -- The search ended on its first grid, where the exact value is below the first step.
    have first : Nat.log2 (fineValue pattern >>> 1074) / 3 + 1 ≤ grid := by
      by_contra later
      exact missed (finer (grid + 1) (Nat.lt_succ_self grid) (by omega))
    have below : fineValue pattern >>> 1074 < Decimal.powerOfTen grid :=
      (floor_lt_firstGrid pattern).trans_le (Nat.pow_le_pow_right (by decide) first)
    rw [Nat.div_eq_of_lt below] at near
    calc core
        ≤ 1 := near
      _ < 10 ^ count := Nat.one_lt_pow positive.ne' (by decide)

end Rival

end Digits

end Binary64
end LoxLexer
