import LoxLexer.Proofs.NumberValue
import LoxLexer.Proofs.Printing

/-!
# Significant digits

The zeros at either end of a row of digits only say where the point stands; the
digits between them are the significant ones.  No decimal of the same value has
fewer of these.
-/

namespace LoxLexer
namespace Decimal

/-! ## Zeros at the ends -/

/-- A row of digits without the zeros at either end. -/
def significant (row : Text) : Text :=
  trimmed (row.dropWhile fun digit => digit == '0')

/-- How many digits a decimal is written with, the zeros at either end not counted. -/
def significantDigits (text : Text) : Nat :=
  (significant (text.filter Character.isDigit)).length

section Zeros

variable (row : Text)

theorem exists_zeros_before :
    ∃ count, row =
      List.replicate count '0' ++ row.dropWhile fun digit => digit == '0' := by
  have zeros : row.takeWhile (fun digit => digit == '0') =
      List.replicate (row.takeWhile fun digit => digit == '0').length '0' := by
    rw [List.eq_replicate_iff]
    refine ⟨rfl, fun digit member => ?_⟩
    have zero : (digit == '0') = true :=
      List.mem_takeWhile_imp (p := fun digit => digit == '0') member
    exact eq_of_beq zero
  refine ⟨(row.takeWhile fun digit => digit == '0').length, ?_⟩
  rw [← zeros, List.takeWhile_append_dropWhile]

theorem exists_zeros_behind :
    ∃ count, row = trimmed row ++ List.replicate count '0' := by
  obtain ⟨count, mirrored⟩ := exists_zeros_before row.reverse
  refine ⟨count, ?_⟩
  rw [trimmed, ← List.reverse_replicate, ← List.reverse_append, ← mirrored, List.reverse_reverse]

theorem head?_dropWhile_zero :
    (row.dropWhile fun digit => digit == '0').head? ≠ some '0' := by
  intro zero
  cases head_dropWhile (fun digit => digit == '0') row '0' zero

theorem getLast?_trimmed :
    (trimmed row).getLast? ≠ some '0' := by
  rw [trimmed, List.getLast?_reverse]
  exact head?_dropWhile_zero row.reverse

theorem getLast?_significant :
    (significant row).getLast? ≠ some '0' :=
  getLast?_trimmed _

theorem head?_significant :
    (significant row).head? ≠ some '0' := by
  have front := head?_dropWhile_zero row
  obtain ⟨count, divided⟩ := exists_zeros_behind (row.dropWhile fun digit => digit == '0')
  rw [divided] at front
  rw [significant]
  cases kept : trimmed (row.dropWhile fun digit => digit == '0') with
  | nil =>
      exact nofun
  | cons first rest =>
      rw [kept] at front
      exact front

theorem mem_of_mem_significant {digit : Char} (member : digit ∈ significant row) :
    digit ∈ row :=
  (List.dropWhile_sublist _).mem (mem_of_mem_trimmed member)

end Zeros

/-! ## The value of a row -/

theorem value_append_zeros (row : Text) (count : Nat) :
    value (row ++ List.replicate count '0') = 10 ^ count * value row := by
  rw [value, Nat.ofDigitChars_append, Nat.ofDigitChars_replicate_zero, value]

theorem value_zeros_append (count : Nat) (row : Text) :
    value (List.replicate count '0' ++ row) = value row := by
  rw [value, Nat.ofDigitChars_append, Nat.ofDigitChars_replicate_zero, Nat.mul_zero, value]

theorem exists_value_significant (row : Text) :
    ∃ count, value row = 10 ^ count * value (significant row) := by
  obtain ⟨leading, before⟩ := exists_zeros_before row
  obtain ⟨trailing, behind⟩ := exists_zeros_behind (row.dropWhile fun digit => digit == '0')
  refine ⟨trailing, ?_⟩
  rw [before, value_zeros_append, behind, value_append_zeros, ← behind, ← before, significant]

/-- The value of a digit on its own. -/
theorem value_singleton_lt {digit : Char} (isDigit : Character.isDigit digit = true) :
    value [digit] < 10 := by
  have below : digit.toNat ≤ 57 := (Char.isDigit_iff_toNat.mp isDigit).2
  change 10 * 0 + (digit.toNat - 48) < 10
  omega

theorem value_singleton_pos
    {digit : Char} (isDigit : Character.isDigit digit = true) (nonzero : digit ≠ '0') :
    0 < value [digit] := by
  have above : 48 ≤ digit.toNat := (Char.isDigit_iff_toNat.mp isDigit).1
  have different : digit.toNat ≠ 48 := fun same => nonzero (Char.toNat_inj.mp same)
  change 0 < 10 * 0 + (digit.toNat - 48)
  omega

section Bounds

variable {row : Text} (digits : ∀ digit ∈ row, Character.isDigit digit = true)

include digits

theorem value_lt :
    value row < 10 ^ row.length := by
  induction row with
  | nil =>
      exact Nat.one_pos
  | cons first rest inductionHypothesis =>
      have leading := value_singleton_lt (digits first (List.mem_cons_self ..))
      have later := inductionHypothesis fun digit member =>
        digits digit (List.mem_cons_of_mem first member)
      calc value (first :: rest)
          = 10 ^ rest.length * value [first] + value rest := value_append [first] rest
        _ < 10 ^ rest.length * value [first] + 10 ^ rest.length := by omega
        _ = 10 ^ rest.length * (value [first] + 1) := by ring
        _ ≤ 10 ^ rest.length * 10 := Nat.mul_le_mul_left _ leading
        _ = 10 ^ (first :: rest).length := (Nat.pow_succ ..).symm

theorem le_value_of_head
    (present : row ≠ []) (nonzero : row.head? ≠ some '0') :
    10 ^ (row.length - 1) ≤ value row := by
  cases row with
  | nil =>
      exact absurd rfl present
  | cons first rest =>
      have different : first ≠ '0' := by
        rintro rfl
        exact nonzero rfl
      have leading := value_singleton_pos (digits first (List.mem_cons_self ..)) different
      calc 10 ^ rest.length
          ≤ 10 ^ rest.length * value [first] := Nat.le_mul_of_pos_right _ leading
        _ ≤ 10 ^ rest.length * value [first] + value rest := Nat.le_add_right ..
        _ = value (first :: rest) := (value_append [first] rest).symm

theorem not_dvd_value_of_getLast
    (present : row ≠ []) (nonzero : row.getLast? ≠ some '0') :
    ¬ 10 ∣ value row := by
  obtain ⟨front, last, rfl⟩ := (List.eq_nil_or_concat' row).resolve_left present
  rw [List.getLast?_concat] at nonzero
  have isDigit := digits last (by simp)
  have small := value_singleton_lt isDigit
  have positive := value_singleton_pos isDigit fun zero => nonzero (by simp [zero])
  rw [value_append, List.length_singleton, pow_one]
  omega

end Bounds

/-! ## No decimal of the same value has fewer digits -/

/-- Powers of ten only move the point. -/
theorem le_of_not_dvd
    {core mantissa left right : Nat} (bare : ¬ 10 ∣ core)
    (same : core * 10 ^ left = mantissa * 10 ^ right) :
    core ≤ mantissa := by
  rcases Nat.le_total right left with more | fewer
  · obtain ⟨shift, rfl⟩ := Nat.exists_eq_add_of_le more
    have cancelled : mantissa = core * 10 ^ shift := by
      apply Nat.eq_of_mul_eq_mul_right (Nat.pow_pos (show 0 < 10 by decide))
      rw [← same, Nat.pow_add]
      ring
    rw [cancelled]
    exact Nat.le_mul_of_pos_right _ (Nat.pow_pos (by decide))
  · obtain ⟨shift, rfl⟩ := Nat.exists_eq_add_of_le fewer
    have cancelled : core = mantissa * 10 ^ shift := by
      apply Nat.eq_of_mul_eq_mul_right (Nat.pow_pos (show 0 < 10 by decide))
      rw [same, Nat.pow_add]
      ring
    cases shift with
    | zero =>
        omega
    | succ shift =>
        rw [Nat.pow_succ, ← Nat.mul_assoc] at cancelled
        exact absurd (cancelled ▸ Nat.dvd_mul_left 10 _) bare

theorem length_significant_le
    {row : Text} (digits : ∀ digit ∈ row, Character.isDigit digit = true)
    {mantissa left right count : Nat}
    (same : value row * 10 ^ left = mantissa * 10 ^ right)
    (small : mantissa < 10 ^ count) :
    (significant row).length ≤ count := by
  by_cases present : significant row = []
  · rw [present]
    exact Nat.zero_le count
  · have inside := fun digit member => digits digit (mem_of_mem_significant row member)
    have bare := not_dvd_value_of_getLast inside present (getLast?_significant row)
    have leading := le_value_of_head inside present (head?_significant row)
    obtain ⟨trailing, worth⟩ := exists_value_significant row
    have aligned :
        value (significant row) * 10 ^ (trailing + left) = mantissa * 10 ^ right := by
      rw [← same, worth, Nat.pow_add]
      ring
    have exponent : (significant row).length - 1 < count := by
      rw [← Nat.pow_lt_pow_iff_right (show 1 < 10 by decide)]
      exact (leading.trans (le_of_not_dvd bare aligned)).trans_lt small
    omega

theorem filter_isDigit_digits (number : Nat) :
    (digits number).filter Character.isDigit = digits number :=
  List.filter_eq_self.mpr fun _ => isDigit_of_mem_digits

theorem significantDigits_signed (negative : Bool) (text : Text) :
    significantDigits ((if negative then ['-'] else []) ++ text) = significantDigits text := by
  cases negative with
  | false => rfl
  | true => rfl

/-- Every number is as many digits as are significant, with zeros behind them. -/
theorem exists_significand (number : Nat) :
    ∃ core shift, number = core * 10 ^ shift ∧
      core < 10 ^ significantDigits (digits number) := by
  obtain ⟨shift, worth⟩ := exists_value_significant (digits number)
  refine ⟨value (significant (digits number)), shift, ?_, ?_⟩
  · rw [Nat.mul_comm, ← worth, value_digits]
  · rw [significantDigits, filter_isDigit_digits]
    exact value_lt fun digit member =>
      isDigit_of_mem_digits (mem_of_mem_significant _ member)

/-! ## Digits that are written -/

theorem value_padded (width number : Nat) :
    value (padded width number) = number := by
  rw [padded, value_zeros_append, value_digits]

theorem length_padded
    {width number : Nat} (positive : 0 < width) (fits : number < powerOfTen width) :
    (padded width number).length = width := by
  have short : (digits number).length ≤ width :=
    (Nat.length_toDigits_le_iff (by decide) positive).mpr fits
  rw [padded, List.length_append, List.length_replicate]
  omega

/-- Only the number zero is written with a zero in front. -/
theorem digits_eq_of_head_zero
    {number : Nat} (zero : (digits number).head? = some '0') :
    digits number = ['0'] := by
  obtain ⟨rest, written⟩ := List.head?_eq_some_iff.mp zero
  rw [written]
  by_contra more
  have present : 0 < rest.length :=
    List.length_pos_iff.mpr fun absent => more (by rw [absent])
  have worth : number = value rest := by
    rw [← value_digits number, written]
    exact value_zeros_append 1 rest
  have later : ∀ digit ∈ rest, Character.isDigit digit = true := by
    intro digit member
    have inDigits : digit ∈ digits number := written ▸ List.mem_cons_of_mem '0' member
    exact isDigit_of_mem_digits inDigits
  have short : (digits number).length ≤ rest.length := by
    rw [digits, Nat.length_toDigits_le_iff (by decide) present, worth]
    exact value_lt later
  rw [written, List.length_cons] at short
  omega

end Decimal

/-! ## The numeral of a count -/

namespace Numeral

/-- Point and padding leave the count as it was. -/
theorem value_ofUnits {places : Nat} (positive : 0 < places) (count : Nat) :
    Decimal.value ((ofUnits places count).whole ++ (ofUnits places count).fraction) *
        10 ^ places =
      count * 10 ^ (ofUnits places count).fraction.length := by
  have below := Nat.mod_lt count (Decimal.powerOfTen_pos places)
  have whole : Decimal.value (ofUnits places count).whole = count / Decimal.powerOfTen places :=
    Decimal.value_digits _
  obtain ⟨trailing, divided⟩ :=
    Decimal.exists_zeros_behind (Decimal.padded places (count % Decimal.powerOfTen places))
  have length : places = (ofUnits places count).fraction.length + trailing := by
    have lengths := congrArg List.length divided
    rw [Decimal.length_padded positive below, List.length_append,
      List.length_replicate] at lengths
    exact lengths
  have fraction : 10 ^ trailing * Decimal.value (ofUnits places count).fraction =
      count % Decimal.powerOfTen places := by
    rw [← Decimal.value_padded places (count % Decimal.powerOfTen places), divided,
      Decimal.value_append_zeros]
    rfl
  have power : 10 ^ places = 10 ^ (ofUnits places count).fraction.length * 10 ^ trailing := by
    rw [← Nat.pow_add, ← length]
  have joined : 10 ^ places * (count / Decimal.powerOfTen places) +
      count % Decimal.powerOfTen places = count :=
    Nat.div_add_mod count _
  rw [Decimal.value_append, whole]
  calc (10 ^ (ofUnits places count).fraction.length * (count / Decimal.powerOfTen places) +
          Decimal.value (ofUnits places count).fraction) * 10 ^ places
      = (10 ^ places * (count / Decimal.powerOfTen places) +
          10 ^ trailing * Decimal.value (ofUnits places count).fraction) *
            10 ^ (ofUnits places count).fraction.length := by
        rw [power]
        ring
    _ = count * 10 ^ (ofUnits places count).fraction.length := by
        rw [fraction, joined]

theorem exactValue_ofUnits {places : Nat} (positive : 0 < places) (count : Nat) :
    Decimal.exactValue (ofUnits places count).text = count / Decimal.powerOfTen places := by
  have worth := value_ofUnits positive count
  rw [(wellFormed_ofUnits places count).exactValue_text,
    div_eq_div_iff (Decimal.cast_powerOfTen_pos _).ne' (Decimal.cast_powerOfTen_pos _).ne']
  exact_mod_cast worth

theorem WellFormed.digits_of_mem
    {numeral : Numeral} (formed : numeral.WellFormed) :
    ∀ digit ∈ numeral.whole ++ numeral.fraction, Character.isDigit digit = true := by
  intro digit member
  rcases List.mem_append.mp member with inWhole | inFraction
  · exact formed.1.2 digit inWhole
  · exact formed.2 digit inFraction

theorem WellFormed.filter_isDigit_text
    {numeral : Numeral} (formed : numeral.WellFormed) :
    numeral.text.filter Character.isDigit = numeral.whole ++ numeral.fraction := by
  obtain ⟨whole, fraction⟩ := numeral
  obtain ⟨⟨_, wholeDigits⟩, fractionDigits⟩ := formed
  cases fraction with
  | nil =>
      rw [List.append_nil]
      exact List.filter_eq_self.mpr wholeDigits
  | cons first rest =>
      rw [text, List.filter_append, List.filter_eq_self.mpr wholeDigits,
        List.filter_cons_of_neg (by decide), List.filter_eq_self.mpr fractionDigits]

/-- A numeral has no more digits than its count, in which the point does not matter. -/
theorem significantDigits_ofUnits_le
    {places count core shift limit : Nat} (positive : 0 < places)
    (written : count = core * 10 ^ shift) (small : core < 10 ^ limit) :
    Decimal.significantDigits (ofUnits places count).text ≤ limit := by
  have formed := wellFormed_ofUnits places count
  have worth := value_ofUnits positive count
  generalize ofUnits places count = numeral at *
  have same : Decimal.value (numeral.whole ++ numeral.fraction) * 10 ^ places =
      core * 10 ^ (shift + numeral.fraction.length) := by
    rw [worth, written, Nat.pow_add, Nat.mul_assoc]
  rw [Decimal.significantDigits, formed.filter_isDigit_text]
  exact Decimal.length_significant_le formed.digits_of_mem same small

end Numeral
end LoxLexer
