import LoxLexer.Proofs.CorrectRounding
import LoxLexer.Proofs.TokenShape

/-!
# Equality of tokens

Tokens are compared field by field, and numbers among their literals by value.  A NaN
equals nothing and the two zeros are equal, so on arbitrary tokens equality is a
partial equivalence, and it says less than the bits do.

No source text is read as a NaN or as a negative zero.  On the tokens of scans
equality is therefore an equivalence, and kind, lexeme and line decide it.
-/

namespace LoxLexer

/-! ## Numbers -/

namespace Binary64

variable {left middle right number : Binary64}

theorem equal_iff :
    left.equal right = true ↔
      left.isNaN = false ∧ right.isNaN = false ∧
        (left = right ∨ left.pattern = 0 ∧ right.pattern = 0) := by
  have bits : left.bits = right.bits ↔ left = right := by
    rw [mk.injEq]
  simp only [equal, Bool.and_eq_true, Bool.or_eq_true, Bool.not_eq_true', beq_iff_eq, bits,
    and_assoc]

theorem equal_symm (equals : left.equal right = true) :
    right.equal left = true := by
  rw [equal_iff] at equals ⊢
  obtain ⟨proper, properRight, same | ⟨zero, zeroRight⟩⟩ := equals
  · exact ⟨properRight, proper, .inl same.symm⟩
  · exact ⟨properRight, proper, .inr ⟨zeroRight, zero⟩⟩

theorem equal_trans
    (equals : left.equal middle = true) (equalsRight : middle.equal right = true) :
    left.equal right = true := by
  rw [equal_iff] at equals equalsRight ⊢
  obtain ⟨proper, _, first⟩ := equals
  obtain ⟨_, properRight, second⟩ := equalsRight
  refine ⟨proper, properRight, ?_⟩
  rcases first with rfl | ⟨zero, zeroMiddle⟩
  · exact second
  · rcases second with rfl | ⟨_, zeroRight⟩
    · exact .inr ⟨zero, zeroMiddle⟩
    · exact .inr ⟨zero, zeroRight⟩

theorem equal_self_iff :
    number.equal number = true ↔ number.isNaN = false := by
  rw [equal_iff]
  constructor
  · intro equals
    exact equals.1
  · intro proper
    exact ⟨proper, proper, .inl rfl⟩

/-- Sign and pattern make up the bits. -/
theorem eq_of_isNegative_of_pattern
    (signs : left.isNegative = right.isNegative) (patterns : left.pattern = right.pattern) :
    left = right := by
  have small := left.bits.toNat_lt
  have smallRight := right.bits.toNat_lt
  unfold isNegative at signs
  rw [decide_eq_decide] at signs
  simp only [pattern, signWeight] at signs patterns
  rw [mk.injEq, ← UInt64.toNat_inj]
  omega

/-- Finite numbers are equal just where their values are. -/
theorem equal_iff_value_eq (finite : left.isFinite = true) (finiteRight : right.isFinite = true) :
    left.equal right = true ↔ left.value = right.value := by
  have proper : left.isNaN = false ∧ right.isNaN = false := by
    simp only [isFinite, isNaN, decide_eq_true_eq, decide_eq_false_iff_not] at *
    omega
  rw [equal_iff]
  constructor
  · intro equals
    rcases equals.2.2 with same | ⟨zero, zeroRight⟩
    · rw [same]
    · rw [left.value_eq_zero_iff.mpr zero, right.value_eq_zero_iff.mpr zeroRight]
  · intro same
    refine ⟨proper.1, proper.2, ?_⟩
    have patterns : left.pattern = right.pattern := by
      rw [← magnitude_inj, ← abs_value, ← abs_value, same]
    by_cases signs : left.isNegative = right.isNegative
    · exact .inl (eq_of_isNegative_of_pattern signs patterns)
    · -- A value that is its own opposite is zero.
      have mirrored : left.isNegative = !right.isNegative := Bool.eq_not.mpr signs
      have opposite : left.value = -right.value := by
        rw [value, value, mirrored, magnitude_inj.mpr patterns]
        cases right.isNegative <;> simp
      have zero : right.value = 0 := by linarith
      rw [value_eq_zero_iff] at zero
      exact .inr ⟨patterns.trans zero, zero⟩

/-- The two zeros. -/
example : (⟨0x8000000000000000⟩ : Binary64).equal ⟨0⟩ = true := by
  decide

/-- Without a sign bit there is one zero only, so the bits decide. -/
theorem equal_iff_bits_eq
    (unsigned : left.isNegative = false) (unsignedRight : right.isNegative = false)
    (proper : left.isNaN = false) (properRight : right.isNaN = false) :
    left.equal right = true ↔ left.bits = right.bits := by
  rw [equal_iff]
  constructor
  · intro equals
    rcases equals.2.2 with same | ⟨zero, zeroRight⟩
    · rw [same]
    · have same : left = right :=
        eq_of_isNegative_of_pattern (unsigned.trans unsignedRight.symm)
          (zero.trans zeroRight.symm)
      rw [same]
  · intro same
    have numbers : left = right := by
      rw [mk.injEq, same]
    exact ⟨proper, properRight, .inl numbers⟩

end Binary64

/-! ## Literals -/

namespace Literal

/-- Whether a literal is a number that is not equal to itself. -/
def isNaN : Literal → Bool
  | number value => value.isNaN
  | _ => false

variable {left middle right literal : Literal}

theorem equal_symm (equals : left.equal right = true) :
    right.equal left = true := by
  cases left with
  | absent =>
      cases right with
      | absent => rfl
      | _ => cases equals
  | number value =>
      cases right with
      | number other => exact Binary64.equal_symm equals
      | _ => cases equals
  | text body =>
      cases right with
      | text other => exact beq_iff_eq.mpr (beq_iff_eq.mp equals).symm
      | _ => cases equals

theorem equal_trans
    (equals : left.equal middle = true) (equalsRight : middle.equal right = true) :
    left.equal right = true := by
  cases left with
  | absent =>
      cases middle with
      | absent => exact equalsRight
      | _ => cases equals
  | number value =>
      cases middle with
      | number between =>
          cases right with
          | number other => exact Binary64.equal_trans equals equalsRight
          | _ => cases equalsRight
      | _ => cases equals
  | text body =>
      cases middle with
      | text between =>
          have same : body = between := beq_iff_eq.mp equals
          rw [same]
          exact equalsRight
      | _ => cases equals

theorem equal_self_iff :
    literal.equal literal = true ↔ literal.isNaN = false := by
  cases literal with
  | absent => simp [equal, isNaN]
  | number value => exact Binary64.equal_self_iff
  | text body => simp [equal, isNaN]

end Literal

/-! ## Tokens -/

namespace Token

variable {left middle right token : Token}

theorem equal_iff :
    left.equal right = true ↔
      left.kind = right.kind ∧ left.lexeme = right.lexeme ∧
        left.literal.equal right.literal = true ∧ left.line = right.line := by
  simp only [equal, Bool.and_eq_true, beq_iff_eq, and_assoc]

theorem equal_symm (equals : left.equal right = true) :
    right.equal left = true := by
  rw [equal_iff] at equals ⊢
  obtain ⟨kind, lexeme, literal, line⟩ := equals
  exact ⟨kind.symm, lexeme.symm, Literal.equal_symm literal, line.symm⟩

theorem equal_trans
    (equals : left.equal middle = true) (equalsRight : middle.equal right = true) :
    left.equal right = true := by
  rw [equal_iff] at equals equalsRight ⊢
  obtain ⟨kind, lexeme, literal, line⟩ := equals
  obtain ⟨kindRight, lexemeRight, literalRight, lineRight⟩ := equalsRight
  exact ⟨kind.trans kindRight, lexeme.trans lexemeRight,
    Literal.equal_trans literal literalRight, line.trans lineRight⟩

theorem equal_self_iff :
    token.equal token = true ↔ token.literal.isNaN = false := by
  rw [equal_iff, Literal.equal_self_iff]
  simp only [true_and, and_true]

/-- A token that the scan of some source text has. -/
def IsScanned (token : Token) : Prop :=
  ∃ source, token ∈ (scan source).tokens

theorem IsScanned.isShaped (scanned : token.IsScanned) :
    token.IsShaped := by
  obtain ⟨source, member⟩ := scanned
  exact isShaped_of_mem_tokens source token member

end Token

/-! ## Tokens of scans -/

/-- Numerals are rounded to numbers, and without a sign. -/
theorem Shape.number_proper
    {kind : Kind} {lexeme : Text} {number : Binary64}
    (shape : Shape kind lexeme (.number number)) :
    number.isNegative = false ∧ number.isNaN = false := by
  cases shape with
  | number formed =>
      exact ⟨Binary64.isNegative_nearest _ _, Binary64.isNaN_nearest _ _⟩

theorem Shape.literal_isNaN
    {kind : Kind} {lexeme : Text} {literal : Literal} (shape : Shape kind lexeme literal) :
    literal.isNaN = false := by
  cases literal with
  | number number => exact shape.number_proper.2
  | _ => rfl

namespace Token

variable {left right : Token}

/-- The literal adds nothing, as kind and lexeme determine it. -/
theorem IsShaped.equal_iff_fields (shaped : left.IsShaped) (shapedRight : right.IsShaped) :
    left.equal right = true ↔
      left.kind = right.kind ∧ left.lexeme = right.lexeme ∧ left.line = right.line := by
  rw [equal_iff]
  constructor
  · intro equals
    exact ⟨equals.1, equals.2.1, equals.2.2.2⟩
  · intro same
    obtain ⟨kind, lexeme, line⟩ := same
    have shape : Shape right.kind right.lexeme left.literal := by
      rw [← kind, ← lexeme]
      exact shaped
    have literal := shape.literal_unique shapedRight
    refine ⟨kind, lexeme, ?_, line⟩
    rw [literal]
    exact Literal.equal_self_iff.mpr shapedRight.literal_isNaN

end Token

/-- Equality of arbitrary tokens is symmetric and transitive, and reflexive but for
tokens with a NaN.  On the tokens of scans it is an equivalence, which kind, lexeme and
line decide, and their number literals are equal just where their bits are. -/
theorem token_equality :
    (∀ left right : Token, left.equal right = true → right.equal left = true) ∧
    (∀ left middle right : Token,
      left.equal middle = true → middle.equal right = true → left.equal right = true) ∧
    (∀ token : Token, token.equal token = true ↔
      ¬ ∃ number, token.literal = .number number ∧ number.isNaN = true) ∧
    (Equivalence fun left right : { token : Token // token.IsScanned } =>
      left.val.equal right.val = true) ∧
    ∀ left right : Token, left.IsScanned → right.IsScanned →
      (left.equal right = true ↔
        left.kind = right.kind ∧ left.lexeme = right.lexeme ∧ left.line = right.line) ∧
      ∀ number other, left.literal = .number number → right.literal = .number other →
        (left.literal.equal right.literal = true ↔ number.bits = other.bits) := by
  refine ⟨fun _ _ => Token.equal_symm, fun _ _ _ => Token.equal_trans, ?reflexive,
    ?equivalence, ?scanned⟩
  case reflexive =>
    intro token
    rw [Token.equal_self_iff]
    cases token.literal <;> simp [Literal.isNaN]
  case equivalence =>
    constructor
    · intro token
      exact Token.equal_self_iff.mpr token.property.isShaped.literal_isNaN
    · exact Token.equal_symm
    · exact Token.equal_trans
  case scanned =>
    intro left right scanned scannedRight
    refine ⟨scanned.isShaped.equal_iff_fields scannedRight.isShaped, ?_⟩
    intro number other literal literalRight
    have shape : Shape left.kind left.lexeme left.literal := scanned.isShaped
    have shapeRight : Shape right.kind right.lexeme right.literal := scannedRight.isShaped
    rw [literal] at shape
    rw [literalRight] at shapeRight
    rw [literal, literalRight, Literal.equal]
    exact Binary64.equal_iff_bits_eq shape.number_proper.1 shapeRight.number_proper.1
      shape.number_proper.2 shapeRight.number_proper.2

/-- Two spellings of zero, the second one behind a minus sign. -/
theorem token_equality_zeros :
    Token.IsScanned ⟨.number, "0".toList, .number ⟨0⟩, 1⟩ ∧
      Token.IsScanned ⟨.number, "0.00".toList, .number ⟨0⟩, 1⟩ ∧
      ¬ Token.equal ⟨.number, "0".toList, .number ⟨0⟩, 1⟩
        ⟨.number, "0.00".toList, .number ⟨0⟩, 1⟩ = true ∧
      (Literal.number ⟨0⟩).equal (.number ⟨0⟩) = true := by
  have plain : Token.IsScanned ⟨.number, "0".toList, .number ⟨0⟩, 1⟩ :=
    ⟨"0".toList, by decide +kernel⟩
  have behind : Token.IsScanned ⟨.number, "0.00".toList, .number ⟨0⟩, 1⟩ :=
    ⟨"-0.00".toList, by decide +kernel⟩
  obtain ⟨fields, literals⟩ := token_equality.2.2.2.2 _ _ plain behind
  refine ⟨plain, behind, ?_, (literals _ _ rfl rfl).mpr rfl⟩
  rw [fields]
  decide

end LoxLexer
