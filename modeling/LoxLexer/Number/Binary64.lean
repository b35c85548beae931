import LoxLexer.Character

/-! # Binary64 numbers

A number is its 64 bits.  The bits below the sign form the *pattern*: patterns
count the non-negative numbers in ascending order, from zero through the
subnormal and normal numbers to infinity.  The value of a finite pattern is a
whole multiple of `2 ^ (-1074)`, so values are compared as natural numbers.
-/

namespace LoxLexer

/-- A binary64 number, given by its bits. -/
structure Binary64 where
  bits : UInt64
  deriving DecidableEq, Repr

namespace Binary64

/-- The weight of the sign bit. -/
def signWeight : Nat :=
  0x8000000000000000

/-- The number of patterns in one binade: two to the power 52. -/
def binade : Nat :=
  0x10000000000000

/-- The pattern of infinity; every larger pattern is a NaN. -/
def infinity : Nat :=
  0x7ff0000000000000

def isNegative (number : Binary64) : Bool :=
  signWeight ≤ number.bits.toNat

def pattern (number : Binary64) : Nat :=
  number.bits.toNat % signWeight

/-- The number with a given pattern and a clear sign bit. -/
def ofPattern (pattern : Nat) : Binary64 :=
  ⟨UInt64.ofNat pattern⟩

def isNaN (number : Binary64) : Bool :=
  infinity < number.pattern

def isFinite (number : Binary64) : Bool :=
  number.pattern < infinity

/-- The value of a finite pattern, in units of `2 ^ (-1074)`.  The first binade
holds the subnormal numbers; each later one adds the hidden bit and doubles the
spacing of the one before. -/
def units (pattern : Nat) : Nat :=
  let exponent := pattern / binade
  if exponent = 0 then pattern
  else (binade + pattern % binade) <<< (exponent - 1)

/-- Equality of values: a NaN equals nothing, and the two zeros are equal. -/
def equal (left right : Binary64) : Bool :=
  !left.isNaN && !right.isNaN &&
    (left.bits == right.bits || (left.pattern == 0 && right.pattern == 0))

theorem pattern_ofPattern {pattern : Nat}
    (small : pattern < signWeight) :
    (ofPattern pattern).pattern = pattern := by
  have wide : pattern < 0x10000000000000000 :=
    Nat.lt_trans small (by decide)
  simp only [Binary64.pattern, ofPattern, UInt64.toNat_ofNat']
  rw [Nat.mod_eq_of_lt wide, Nat.mod_eq_of_lt small]

theorem isNegative_ofPattern {pattern : Nat}
    (small : pattern < signWeight) :
    (ofPattern pattern).isNegative = false := by
  have wide : pattern < 0x10000000000000000 :=
    Nat.lt_trans small (by decide)
  simp only [isNegative, ofPattern, UInt64.toNat_ofNat']
  rw [Nat.mod_eq_of_lt wide]
  simpa using small

end Binary64
end LoxLexer
