import LoxLexer.Proofs.CorrectRounding
import LoxLexer.Proofs.TokenShape
import Mathlib.Data.List.TakeWhile

/-!
# The values of number tokens

A numeral stands for a fraction whose denominator is a power of ten.  Whatever the
number of its digits, a number token carries the one number that this fraction is
rounded to.
-/

namespace LoxLexer

/-! ## The value of a row of characters -/

namespace Decimal

def digitValue (digit : Char) : ℚ :=
  (digit.toNat - '0'.toNat : Nat)

/-- The value of digits in front of a point. -/
def wholeValue (row : Text) : ℚ :=
  row.foldl (fun total digit => 10 * total + digitValue digit) 0

/-- The value of digits behind a point. -/
def fractionValue (row : Text) : ℚ :=
  row.foldr (fun digit total => (digitValue digit + total) / 10) 0

/-- The exact value of a lexeme: digits with a point between them, or without. -/
def exactValue (lexeme : Text) : ℚ :=
  wholeValue (lexeme.takeWhile (· != '.')) +
    fractionValue ((lexeme.dropWhile (· != '.')).drop 1)

theorem foldl_digits (row : Text) (start : Nat) :
    row.foldl (fun total digit => 10 * total + digitValue digit) (start : ℚ) =
      Nat.ofDigitChars 10 row start := by
  induction row generalizing start with
  | nil =>
      rfl
  | cons digit rest inductionHypothesis =>
      rw [List.foldl_cons, Nat.ofDigitChars_cons, ← inductionHypothesis]
      push_cast
      rfl

theorem wholeValue_eq (row : Text) :
    wholeValue row = value row := by
  rw [wholeValue, ← Nat.cast_zero, foldl_digits, value]

theorem value_cons (digit : Char) (rest : Text) :
    (value (digit :: rest) : ℚ) = 10 ^ rest.length * digitValue digit + value rest := by
  rw [value, value, Nat.ofDigitChars_cons, Nat.ofDigitChars_eq_ofDigitChars_zero, digitValue,
    Nat.mul_zero, Nat.zero_add]
  push_cast
  rfl

theorem fractionValue_eq (row : Text) :
    fractionValue row = value row / 10 ^ row.length := by
  induction row with
  | nil =>
      simp [fractionValue, value]
  | cons digit rest inductionHypothesis =>
      rw [fractionValue, List.foldr_cons, ← fractionValue, inductionHypothesis, value_cons,
        List.length_cons, pow_succ]
      field_simp

theorem value_append (whole fraction : Text) :
    value (whole ++ fraction) = 10 ^ fraction.length * value whole + value fraction := by
  rw [value, Nat.ofDigitChars_append, Nat.ofDigitChars_eq_ofDigitChars_zero]
  rfl

theorem cast_powerOfTen (places : Nat) :
    (powerOfTen places : ℚ) = 10 ^ places := by
  exact_mod_cast rfl

theorem cast_powerOfTen_pos (places : Nat) :
    (0 : ℚ) < powerOfTen places := by
  exact_mod_cast powerOfTen_pos places

theorem exactValue_append
    {whole rest : Text} (pointless : ∀ digit ∈ whole, (digit != '.') = true)
    (stops : ∀ first ∈ rest.head?, (first != '.') = false) :
    exactValue (whole ++ rest) = wholeValue whole + fractionValue (rest.drop 1) := by
  rw [exactValue, takeWhile_append_of_head pointless stops,
    dropWhile_append_of_head pointless stops]

theorem exactValue_nonneg (lexeme : Text) :
    0 ≤ exactValue lexeme := by
  rw [exactValue, wholeValue_eq, fractionValue_eq]
  positivity

end Decimal

/-- The exact value of a numeral is the fraction that is rounded. -/
theorem Numeral.WellFormed.exactValue_text
    {numeral : Numeral} (formed : numeral.WellFormed) :
    Decimal.exactValue numeral.text =
      Decimal.value (numeral.whole ++ numeral.fraction) /
        Decimal.powerOfTen numeral.fraction.length := by
  obtain ⟨whole, fraction⟩ := numeral
  have pointless : ∀ digit ∈ whole, (digit != '.') = true := by
    intro digit member
    have isDigit := formed.1.2 digit member
    by_contra isPoint
    simp only [bne_iff_ne, not_not] at isPoint
    rw [isPoint] at isDigit
    cases isDigit
  have parts : Decimal.exactValue (text ⟨whole, fraction⟩) =
      Decimal.wholeValue whole + Decimal.fractionValue fraction := by
    cases fraction with
    | nil =>
        have alone : Decimal.exactValue (whole ++ []) = _ :=
          Decimal.exactValue_append pointless (by simp)
        rw [List.append_nil] at alone
        exact alone
    | cons first others =>
        exact Decimal.exactValue_append pointless (by simp)
  rw [parts, Decimal.wholeValue_eq, Decimal.fractionValue_eq, Decimal.value_append,
    Decimal.cast_powerOfTen]
  push_cast
  field_simp

/-! ## The literal of a number token -/

theorem Numeral.WellFormed.isPlaced_nearest
    {numeral : Numeral} (formed : numeral.WellFormed) :
    Binary64.IsPlaced (Decimal.exactValue numeral.text) numeral.nearest := by
  rw [formed.exactValue_text]
  exact Binary64.isPlaced_nearest (Decimal.powerOfTen_pos _) _

/-- The literal of every number token is the rounding of the exact value of its
characters, and no other number is. -/
theorem number_tokens_correctly_rounded (source : Text) :
    ∀ token ∈ (scan source).tokens, token.kind = .number →
      ∃ number, token.literal = .number number ∧
        ∀ other, Binary64.IsRounding (Decimal.exactValue token.lexeme) other ↔
          other = number := by
  rintro ⟨kind, lexeme, literal, line⟩ member rfl
  have shape : Shape .number lexeme literal := isShaped_of_mem_tokens source _ member
  cases shape with
  | number formed =>
      have placed := formed.isPlaced_nearest
      refine ⟨_, rfl, fun other => ?_⟩
      constructor
      · exact fun rounding => rounding.isPlaced.unique placed
      · rintro rfl
        exact placed.isRounding (Decimal.exactValue_nonneg _)

/-- One more than two to the power 53 lies halfway between two numbers. -/
theorem number_tokens_correctly_rounded_tie :
    (⟨.number, "9007199254740993".toList, .number ⟨0x4340000000000000⟩, 1⟩ : Token) ∈
        (scan "9007199254740993".toList).tokens ∧
      ∃ number, Literal.number ⟨0x4340000000000000⟩ = .number number ∧
        ∀ other, Binary64.IsRounding (Decimal.exactValue "9007199254740993".toList) other ↔
          other = number := by
  have member : (⟨.number, "9007199254740993".toList, .number ⟨0x4340000000000000⟩, 1⟩ : Token) ∈
      (scan "9007199254740993".toList).tokens := by
    decide +kernel
  exact ⟨member, number_tokens_correctly_rounded _ _ member rfl⟩

end LoxLexer
