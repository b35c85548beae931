import LoxLexer.Proofs.Offence

/-!
# Escapes in messages

A control character never stands for itself in a message: the table of unprintable
characters covers all of them, and an escape is written with a backslash, braces,
letters and digits alone.
-/

namespace LoxLexer

namespace Character

/-- The control characters of ASCII and those behind it. -/
def isControl (character : Char) : Bool :=
  character.toNat ≤ 0x1f || (0x7f ≤ character.toNat && character.toNat ≤ 0x9f)

theorem isControl_eq_false_of_any {row : Text} (clean : row.any isControl = false) :
    ∀ character ∈ row, isControl character = false := by
  simpa using clean

end Character

namespace Escape

/-! ## Characters that stand for themselves -/

/-- The first two ranges of the table are the control characters and the characters
next to them. -/
theorem unprintableRanges_eq :
    unprintableRanges = (0x0, 0x1f) :: (0x7f, 0xa0) :: unprintableRanges.drop 2 :=
  rfl

theorem isUnprintable_of_isControl {character : Char}
    (control : Character.isControl character = true) :
    isUnprintable character = true := by
  simp only [Character.isControl, Bool.or_eq_true, Bool.and_eq_true,
    decide_eq_true_eq] at control
  rw [isUnprintable, unprintableRanges_eq, covered, covered]
  rcases control with low | ⟨above, below⟩
  · simp [low]
  · have inside : character.toNat ≤ 0xa0 := by omega
    simp [above, inside]

/-! ## Escapes -/

def hexDigits : Text :=
  "0123456789abcdef".toList

theorem digitChar_mem_hexDigits {digit : Nat} (small : digit < 16) :
    Nat.digitChar digit ∈ hexDigits := by
  have table : ∀ digit < 16, Nat.digitChar digit ∈ hexDigits := by
    decide +kernel
  exact table digit small

theorem mem_hexDigits_of_mem_toDigits
    {base number : Nat} {digit : Char} (several : 1 < base) (few : base ≤ 16)
    (member : digit ∈ Nat.toDigits base number) :
    digit ∈ hexDigits := by
  induction number using Nat.strongRecOn with
  | ind number induction =>
      rw [Nat.toDigits_eq_if several] at member
      by_cases small : number < base
      · rw [if_pos small, List.mem_singleton] at member
        rw [member]
        exact digitChar_mem_hexDigits (by omega)
      · rw [if_neg small, List.mem_append, List.mem_singleton] at member
        rcases member with earlier | last
        · exact induction (number / base) (Nat.div_lt_self (by omega) several) earlier
        · have below := Nat.mod_lt number (Nat.zero_lt_of_lt several)
          rw [last]
          exact digitChar_mem_hexDigits (by omega)

theorem isControl_eq_false_of_mem_hexDigits :
    ∀ digit ∈ hexDigits, Character.isControl digit = false :=
  Character.isControl_eq_false_of_any (by decide +kernel)

theorem isControl_eq_false_of_mem_codePoint {escaped character : Char}
    (member : character ∈ codePoint escaped) :
    Character.isControl character = false := by
  rw [codePoint, List.mem_append, List.mem_append] at member
  rcases member with (opening | digit) | closing
  · exact Character.isControl_eq_false_of_any (by decide +kernel) character opening
  · exact isControl_eq_false_of_mem_hexDigits character
      (mem_hexDigits_of_mem_toDigits (by decide) (by decide) digit)
  · rw [List.mem_singleton.mp closing]
    decide

theorem isControl_eq_false_of_letter? {escaped letter : Char}
    (found : letter? escaped = some letter) :
    Character.isControl letter = false := by
  unfold letter? at found
  split at found <;> cases found <;> decide

/-- No escape holds a control character, whatever is escaped. -/
theorem isControl_eq_false_of_mem_character {escaped character : Char}
    (member : character ∈ Escape.character escaped) :
    Character.isControl character = false := by
  rw [Escape.character] at member
  split at member
  · rename_i letter found
    rcases List.mem_cons.mp member with backslash | named
    · rw [backslash]
      decide
    · rw [List.mem_singleton.mp named]
      exact isControl_eq_false_of_letter? found
  · split at member
    · exact isControl_eq_false_of_mem_codePoint member
    · rename_i printable
      rw [List.mem_singleton.mp member, Bool.eq_false_iff]
      intro control
      exact printable (isUnprintable_of_isControl control)

end Escape

/-! ## Messages of reported faults -/

theorem Fault.message_unexpectedCharacter (character : Char) :
    (unexpectedCharacter character).message =
      "Unexpected character '".toList ++ Escape.character character ++ "'.".toList :=
  rfl

/-- Whatever character is to blame, the message has no control character. -/
theorem Fault.Blames.isControl_eq_false_of_mem_message
    {fault : Fault} {offender character : Char} (blames : fault.Blames offender)
    (member : character ∈ fault.message) :
    Character.isControl character = false := by
  rcases blames with ⟨unexpected, _⟩ | ⟨unterminated, _⟩
  · have around : ∀ character ∈ "Unexpected character '".toList ++ "'.".toList,
        Character.isControl character = false :=
      Character.isControl_eq_false_of_any (by decide +kernel)
    rw [unexpected, message_unexpectedCharacter, List.mem_append, List.mem_append] at member
    rcases member with (front | escape) | back
    · exact around character (List.mem_append_left _ front)
    · exact Escape.isControl_eq_false_of_mem_character escape
    · exact around character (List.mem_append_right _ back)
  · rw [unterminated] at member
    exact Character.isControl_eq_false_of_any (by decide +kernel) character member

end LoxLexer
