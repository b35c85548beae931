import LoxLexer.Proofs.Escaping

/-!
# Escapes are read back

A raw character is never a backslash, so what begins with a backslash is an escape.  The
character behind it tells whether a letter names the escaped character or a code point
follows in braces.  One reading therefore undoes both rules of escaping, which differ in
the single quote alone, and no text that is escaped can imitate another one.
-/

namespace LoxLexer
namespace Escape

/-! ## Hexadecimal numbers -/

/-- The number that a row of hexadecimal digits stands for. -/
def hexValue (row : Text) : Nat :=
  row.foldl (fun value digit => value * 16 + hexDigits.idxOf digit) 0

theorem idxOf_digitChar {digit : Nat} (small : digit < 16) :
    hexDigits.idxOf (Nat.digitChar digit) = digit := by
  have table : ∀ digit < 16, hexDigits.idxOf (Nat.digitChar digit) = digit := by
    decide +kernel
  exact table digit small

theorem hexValue_toDigits (number : Nat) :
    hexValue (Nat.toDigits 16 number) = number := by
  induction number using Nat.strongRecOn with
  | ind number induction =>
      rw [Nat.toDigits_eq_if (by decide)]
      by_cases small : number < 16
      · rw [if_pos small, hexValue, List.foldl_cons, List.foldl_nil, Nat.zero_mul,
          Nat.zero_add, idxOf_digitChar small]
      · have front : hexValue (Nat.toDigits 16 (number / 16)) = number / 16 :=
          induction (number / 16) (by omega)
        rw [hexValue] at front
        rw [if_neg small, hexValue, List.foldl_append, front, List.foldl_cons,
          List.foldl_nil, idxOf_digitChar (Nat.mod_lt number (by decide))]
        omega

theorem ne_closing_of_mem_hexDigits {digit : Char} (member : digit ∈ hexDigits) :
    (!(digit == '}')) = true := by
  have table : (hexDigits.all fun digit => !(digit == '}')) = true := by
    decide +kernel
  exact List.all_eq_true.mp table digit member

/-! ## Reading -/

/-- The character that a letter names behind a backslash. -/
def named? : Char → Option Char
  | '0' => some '\x00'
  | 't' => some '\t'
  | 'n' => some '\n'
  | 'r' => some '\r'
  | '"' => some '"'
  | '\x27' => some '\x27'
  | '\\' => some '\\'
  | _ => none

/-- The character of a code point whose digits stand in front of a brace, and what
follows the brace. -/
def readCodePoint (source : Text) : Char × Text :=
  (Char.ofNat (hexValue (source.takeWhile fun digit => !(digit == '}'))),
    (source.dropWhile fun digit => !(digit == '}')).tail)

/-- The character that is written in front of an escaped text, and what follows it. -/
def read? : Text → Option (Char × Text)
  | [] => none
  | ['\\'] => none
  | '\\' :: letter :: rest =>
      if letter = 'u' then some (readCodePoint rest.tail)
      else (named? letter).map fun character => (character, rest)
  | first :: rest => some (first, rest)

theorem read?_backslash (letter : Char) (rest : Text) :
    read? ('\\' :: letter :: rest) =
      if letter = 'u' then some (readCodePoint rest.tail)
      else (named? letter).map fun character => (character, rest) :=
  rfl

theorem read?_of_ne_backslash {first : Char} (raw : first ≠ '\\') (rest : Text) :
    read? (first :: rest) = some (first, rest) := by
  unfold read?
  split <;> simp_all

/-! ## One character -/

theorem readCodePoint_digits (member : Char) (rest : Text) :
    readCodePoint (Nat.toDigits 16 member.toNat ++ '}' :: rest) = (member, rest) := by
  have inside : ∀ digit ∈ Nat.toDigits 16 member.toNat, (!(digit == '}')) = true :=
    fun digit found => ne_closing_of_mem_hexDigits
      (mem_hexDigits_of_mem_toDigits (by decide) (by decide) found)
  have stops : ∀ character ∈ ('}' :: rest).head?, (!(character == '}')) = false := by
    intro character found
    rw [← Option.some.inj found]
    decide
  rw [readCodePoint, takeWhile_append_of_head inside stops,
    dropWhile_append_of_head inside stops, hexValue_toDigits, Char.ofNat_toNat]
  rfl

theorem read?_codePoint (member : Char) (rest : Text) :
    read? (codePoint member ++ rest) = some (member, rest) := by
  have written : codePoint member ++ rest =
      '\\' :: 'u' :: '{' :: (Nat.toDigits 16 member.toNat ++ '}' :: rest) := by
    simp [codePoint]
  rw [written, read?_backslash, if_pos rfl, List.tail_cons, readCodePoint_digits]

theorem read?_letter {member letter : Char} (found : letter? member = some letter)
    (rest : Text) :
    read? ('\\' :: letter :: rest) = some (member, rest) := by
  unfold letter? at found
  split at found <;> cases found <;> rfl

/-- Reading undoes the escape of a character between single quotes. -/
theorem read?_character (member : Char) (rest : Text) :
    read? (character member ++ rest) = some (member, rest) := by
  rw [character]
  cases found : letter? member with
  | some letter =>
      exact read?_letter found rest
  | none =>
      by_cases unprintable : isUnprintable member = true
      · simp only [unprintable, if_true]
        exact read?_codePoint member rest
      · have raw : member ≠ '\\' := by
          intro same
          rw [same] at found
          cases found
        simp only [unprintable]
        exact read?_of_ne_backslash raw rest

/-- Reading undoes the escape of a character between double quotes as well. -/
theorem read?_textCharacter (member : Char) (rest : Text) :
    read? (textCharacter member ++ rest) = some (member, rest) := by
  by_cases single : member = '\x27'
  · rw [textCharacter, if_pos single]
    apply read?_of_ne_backslash
    rw [single]
    decide
  · rw [textCharacter, if_neg single]
    exact read?_character member rest

/-- No escape begins another one, whatever stands behind both. -/
theorem character_unique {left right : Char} {behind rest : Text}
    (joined : character left ++ behind = character right ++ rest) :
    left = right ∧ behind = rest := by
  have read := read?_character left behind
  rw [joined, read?_character] at read
  obtain ⟨same, later⟩ := Prod.mk.inj (Option.some.inj read)
  exact ⟨same.symm, later.symm⟩

/-! ## Texts -/

theorem flatMap_textCharacter_injective {left right : Text}
    (same : left.flatMap textCharacter = right.flatMap textCharacter) :
    left = right := by
  induction left generalizing right with
  | nil =>
      cases right with
      | nil => rfl
      | cons first others =>
          have read := read?_textCharacter first (others.flatMap textCharacter)
          rw [← List.flatMap_cons, ← same] at read
          cases read
  | cons first rest induction =>
      have read := read?_textCharacter first (rest.flatMap textCharacter)
      rw [← List.flatMap_cons, same] at read
      cases right with
      | nil => cases read
      | cons second others =>
          rw [List.flatMap_cons, read?_textCharacter] at read
          obtain ⟨head, later⟩ := Prod.mk.inj (Option.some.inj read)
          rw [head, induction later.symm]

theorem quoted_injective {left right : Text} (same : quoted left = quoted right) :
    left = right :=
  flatMap_textCharacter_injective
    (List.append_cancel_right (List.cons.inj same).2)

end Escape
end LoxLexer
