import LoxLexer.Proofs.Shortest
import Mathlib.Algebra.Order.Field.Power

/-!
# Numbers are printed as they are read

A finite number is printed as a numeral, behind a minus sign where its sign bit is set.
The scanner reads that text back to the number without its sign, and no decimal that is
rounded to the number has fewer significant digits.
-/

namespace LoxLexer

/-! ## Plain decimals -/

/-- Digits with a zero in front only if it is the only one. -/
def IsWholePart (text : Text) : Prop :=
  IsDigits text ∧ (text.head? = some '0' → text = ['0'])

/-- Digits without a zero at the end. -/
def IsFractionPart (text : Text) : Prop :=
  IsDigits text ∧ text.getLast? ≠ some '0'

/-- A number without superfluous zeros, and without an exponent. -/
def IsPlainDecimal (text : Text) : Prop :=
  IsWholePart text ∨
    ∃ whole fraction,
      IsWholePart whole ∧ IsFractionPart fraction ∧ text = whole ++ '.' :: fraction

theorem Numeral.isPlainDecimal_ofUnits (places count : Nat) :
    IsPlainDecimal (ofUnits places count).text := by
  obtain ⟨wholeDigits, fractionDigits⟩ := wellFormed_ofUnits places count
  have whole : IsWholePart (ofUnits places count).whole :=
    ⟨wholeDigits, Decimal.digits_eq_of_head_zero⟩
  have last : (ofUnits places count).fraction.getLast? ≠ some '0' :=
    Decimal.getLast?_trimmed _
  generalize ofUnits places count = numeral at *
  obtain ⟨front, fraction⟩ := numeral
  cases fraction with
  | nil =>
      exact .inl whole
  | cons first rest =>
      exact .inr ⟨front, first :: rest, whole,
        ⟨⟨List.cons_ne_nil first rest, fractionDigits⟩, last⟩, rfl⟩

namespace Binary64

/-! ## Sign and magnitude -/

/-- The number without its sign bit. -/
def abs (number : Binary64) : Binary64 :=
  ⟨number.bits &&& 0x7fffffffffffffff⟩

theorem abs_eq_ofPattern (number : Binary64) :
    number.abs = ofPattern number.pattern := by
  have weight : signWeight = 2 ^ 63 := rfl
  have mask : (0x7fffffffffffffff : UInt64).toNat = 2 ^ 63 - 1 := rfl
  have small : number.pattern < 2 ^ 64 :=
    (Nat.mod_lt _ (by decide)).trans (by decide : signWeight < 2 ^ 64)
  apply congrArg Binary64.mk
  rw [← UInt64.toNat_inj, UInt64.toNat_and, UInt64.toNat_ofNat', Nat.mod_eq_of_lt small, mask,
    Nat.and_two_pow_sub_one_eq_mod, pattern, weight]

theorem pattern_ne_zero_of_value {number : Binary64} (nonzero : number.value ≠ 0) :
    number.pattern ≠ 0 :=
  number.value_eq_zero_iff.not.mp nonzero

/-- A number, other than zero, is the one that an amount of either sign is rounded to. -/
structure RoundsTo (number : Binary64) (amount : ℚ) : Prop where
  magnitude : IsRounding |amount| number.abs
  negative : number.isNegative = true ↔ amount < 0

theorem RoundsTo.isPlaced
    {number : Binary64} {mantissa exponent : ℤ}
    (rounds : number.RoundsTo (mantissa * 10 ^ exponent)) :
    IsPlaced (mantissa.natAbs * 10 ^ exponent) (ofPattern number.pattern) := by
  have placed := rounds.magnitude.isPlaced
  have power : (0 : ℚ) < 10 ^ exponent := zpow_pos (by norm_num) _
  rw [abs_mul, abs_of_pos power, ← Int.cast_abs, ← Nat.cast_natAbs, abs_eq_ofPattern] at placed
  exact placed

/-! ## The numeral of a finite number -/

section Finite

variable {pattern : Nat} (finite : pattern < infinity)

include finite

/-- The numeral is read back to the number that it was written for. -/
theorem nearest_shortest :
    (shortest pattern).nearest = ofPattern pattern := by
  rw [shortest_eq]
  have read := (Numeral.wellFormed_ofUnits finestPlaces (shortestCount pattern)).isPlaced_nearest
  rw [Numeral.exactValue_ofUnits (by decide)] at read
  exact read.unique ((readsBack_iff finite).mp (readsBack_shortestCount finite))

/-- No decimal that is rounded to a number has fewer digits than its numeral. -/
theorem significantDigits_shortest_le
    (nonzero : pattern ≠ 0) {mantissa : Nat} {exponent : ℤ}
    (placed : IsPlaced (mantissa * 10 ^ exponent) (ofPattern pattern)) :
    Decimal.significantDigits (shortest pattern).text ≤
      Decimal.significantDigits (Decimal.digits mantissa) := by
  obtain ⟨core, shift, written, small⟩ := Decimal.exists_significand mantissa
  have amount : (mantissa * 10 ^ exponent : ℚ) = core * 10 ^ (shift + exponent) := by
    rw [zpow_add₀ (by norm_num), zpow_natCast, ← mul_assoc, written, Nat.cast_mul, Nat.cast_pow,
      Nat.cast_ofNat]
  rw [amount] at placed
  obtain ⟨printed, places, worth, fewer⟩ := exists_digits_of_isPlaced finite small placed nonzero
  rw [shortest_eq]
  exact Numeral.significantDigits_ofUnits_le (by decide) worth fewer

end Finite

theorem lt_infinity_of_isFinite {number : Binary64} (finite : number.isFinite = true) :
    number.pattern < infinity :=
  of_decide_eq_true finite

theorem text_of_isFinite {number : Binary64} (finite : number.isFinite = true) :
    number.text =
      (if number.isNegative then ['-'] else []) ++ (shortest number.pattern).text := by
  have proper : ¬ number.isNaN = true := by
    simpa [isNaN] using (lt_infinity_of_isFinite finite).le
  rw [text, if_neg proper, if_pos finite]

end Binary64

/-! ## A numeral behind a sign -/

section Signed

variable {numeral : Numeral} (formed : numeral.WellFormed)

include formed

theorem segments_signed (negative : Bool) :
    segments ((if negative then ['-'] else []) ++ numeral.text) =
      (if negative then [.symbol .minus] else []) ++ [.number numeral] := by
  have fits : RowFits [.number numeral] :=
    ⟨⟨formed, by simp [Segment.EndsBefore, beginsFraction]⟩, trivial⟩
  have written : [Segment.number numeral].flatMap Segment.text = numeral.text :=
    List.flatMap_singleton ..
  rw [segments_eq_iff]
  cases negative with
  | false =>
      exact ⟨written, fits⟩
  | true =>
      refine ⟨?_, ⟨trivial, Segment.ends_symbol_of_extension? rfl _⟩, fits⟩
      rw [if_pos rfl, if_pos rfl, List.flatMap_append, written]
      rfl

theorem scan_signed (negative : Bool) :
    (scan ((if negative then ['-'] else []) ++ numeral.text)).faults = [] ∧
      (scan ((if negative then ['-'] else []) ++ numeral.text)).tokens =
        (if negative then [⟨.symbol .minus, ['-'], .absent, 1⟩] else []) ++
          [⟨.number, numeral.text, .number numeral.nearest, 1⟩,
            ⟨.endOfInput, [], .absent, 1⟩] := by
  have alone : Scan.ofSegments 1 [.number numeral] =
      ⟨[.token ⟨.number, numeral.text, .number numeral.nearest, 1⟩], 1⟩ := by
    rw [Scan.ofSegments, Segment.lineFeeds_number formed]
    rfl
  rw [scan_eq_ofSegments, segments_signed formed negative]
  cases negative with
  | false =>
      rw [if_neg Bool.false_ne_true, List.nil_append, alone]
      exact ⟨rfl, rfl⟩
  | true =>
      rw [if_pos rfl, List.singleton_append, Scan.ofSegments, Segment.lineFeeds_symbol, alone]
      exact ⟨rfl, rfl⟩

end Signed

/-! ## The display of a number -/

/-- A finite number is printed without an exponent and without superfluous zeros, behind a
minus sign just where its sign bit is set, negative zero included.  The scanner reads the
text back, bit for bit but for the sign, which it reads as a token of its own.  No decimal
with fewer significant digits is rounded to the number, unless it is zero. -/
theorem scan_display_number {number : Binary64} (finite : number.isFinite = true) :
    ∃ body,
      (Literal.number number).display =
        (if number.isNegative then ['-'] else []) ++ body ∧
      IsPlainDecimal body ∧
      (scan (Literal.number number).display).faults = [] ∧
      (scan (Literal.number number).display).tokens =
        (if number.isNegative then [⟨.symbol .minus, ['-'], .absent, 1⟩] else []) ++
          [⟨.number, body, .number number.abs, 1⟩, ⟨.endOfInput, [], .absent, 1⟩] ∧
      (number.value ≠ 0 → ∀ (mantissa exponent : ℤ),
        Decimal.significantDigits (Decimal.digits mantissa.natAbs) <
            Decimal.significantDigits (Literal.number number).display →
          ¬ number.RoundsTo (mantissa * 10 ^ exponent)) := by
  have inside := Binary64.lt_infinity_of_isFinite finite
  have formed : (Binary64.shortest number.pattern).WellFormed := Numeral.wellFormed_ofUnits ..
  have written := Binary64.text_of_isFinite finite
  obtain ⟨faults, tokens⟩ := scan_signed formed number.isNegative
  rw [Binary64.nearest_shortest inside, ← Binary64.abs_eq_ofPattern] at tokens
  rw [← written] at faults tokens
  refine ⟨_, written, Numeral.isPlainDecimal_ofUnits _ _, faults, tokens, ?_⟩
  intro nonzero mantissa exponent fewer rounds
  have least := Binary64.significantDigits_shortest_le inside
    (Binary64.pattern_ne_zero_of_value nonzero) rounds.isPlaced
  rw [Literal.display, written, Decimal.significantDigits_signed] at fewer
  omega

/-- The number nearest to minus fifteen hundredths has a display of two digits, and is not
what any decimal of one digit is rounded to. -/
theorem scan_display_number_two_digits :
    (⟨0xbfc3333333333333⟩ : Binary64).isFinite = true ∧
      (Literal.number ⟨0xbfc3333333333333⟩).display = "-0.15".toList ∧
      (scan "-0.15".toList).tokens =
        [⟨.symbol .minus, "-".toList, .absent, 1⟩,
          ⟨.number, "0.15".toList, .number ⟨0x3fc3333333333333⟩, 1⟩,
          ⟨.endOfInput, [], .absent, 1⟩] ∧
      ∀ exponent : ℤ, ¬ Binary64.RoundsTo ⟨0xbfc3333333333333⟩ ((-2 : ℤ) * 10 ^ exponent) := by
  have finite : (⟨0xbfc3333333333333⟩ : Binary64).isFinite = true := by
    decide
  have display : (Literal.number ⟨0xbfc3333333333333⟩).display = "-0.15".toList := by
    decide +kernel
  have nonzero : (⟨0xbfc3333333333333⟩ : Binary64).value ≠ 0 := by
    rw [Binary64.value, if_pos (by decide), neg_ne_zero, Binary64.magnitude, if_neg (by decide)]
    positivity
  obtain ⟨body, written, _, _, tokens, least⟩ := scan_display_number finite
  rw [display] at written tokens least
  obtain rfl : body = "0.15".toList := (List.cons.inj written).2.symm
  exact ⟨finite, display, tokens, fun exponent => least nonzero (-2) exponent (by decide)⟩

/-- Negative zero keeps its sign. -/
example : (Literal.number ⟨0x8000000000000000⟩).display = "-0".toList := by
  decide +kernel

end LoxLexer
