import LoxLexer.Proofs.Cursor
import LoxLexer.Proofs.LineNumbers

/-!
# Printed tokens

A token of a text without line feeds is printed without any: what is printed is
the word for its kind, its characters, and its value.
-/

namespace LoxLexer

/-! ## Numbers are printed as numerals -/

namespace Decimal

theorem isDigit_of_mem_digits
    {number : Nat} {digit : Char} (member : digit ∈ digits number) :
    Character.isDigit digit = true :=
  Nat.isDigit_of_mem_toDigits (by decide) (by decide) member

theorem not_mem_digits {character : Char} (other : Character.isDigit character = false)
    (number : Nat) :
    character ∉ digits number := by
  intro member
  rw [isDigit_of_mem_digits member] at other
  cases other

/-- A number ends at the first character that is no digit. -/
theorem digits_unique
    {left right : Nat} {boundary : Char} {behind rest : Text}
    (other : Character.isDigit boundary = false)
    (joined : digits left ++ boundary :: behind = digits right ++ boundary :: rest) :
    left = right ∧ behind = rest := by
  obtain ⟨same, later⟩ := delimited_unique (not_mem_digits other left)
    (not_mem_digits other right) joined
  exact ⟨digits_injective same, later⟩

theorem isDigit_of_mem_padded
    {width number : Nat} {digit : Char} (member : digit ∈ padded width number) :
    Character.isDigit digit = true := by
  rw [padded, List.mem_append] at member
  rcases member with zero | significant
  · rw [List.eq_of_mem_replicate zero]
    rfl
  · exact isDigit_of_mem_digits significant

theorem mem_of_mem_trimmed
    {row : Text} {digit : Char} (member : digit ∈ trimmed row) :
    digit ∈ row := by
  rw [trimmed, List.mem_reverse] at member
  exact List.mem_reverse.mp ((List.dropWhile_sublist _).mem member)

end Decimal

theorem Numeral.wellFormed_ofUnits (places count : Nat) :
    (Numeral.ofUnits places count).WellFormed := by
  refine ⟨⟨?_, fun digit => Decimal.isDigit_of_mem_digits⟩, fun digit member => ?_⟩
  · exact Nat.toDigits_ne_nil
  · exact Decimal.isDigit_of_mem_padded (Decimal.mem_of_mem_trimmed member)

theorem Binary64.unbroken_text (number : Binary64) :
    '\n' ∉ number.text := by
  have finite := (Numeral.wellFormed_ofUnits Binary64.finestPlaces
    (Binary64.coarsest number.pattern
      (Nat.log2 (Binary64.fineValue number.pattern >>> 1074) / 3 + 1))).unbroken_text
  unfold Binary64.text
  split
  · decide
  · rw [List.mem_append, not_or]
    constructor
    · split <;> decide
    · split
      · exact finite
      · decide

/-! ## Tokens are printed on one row -/

theorem Kind.isBlank_eq_false_of_mem_spelling
    {kind : Kind} {character : Char} (member : character ∈ kind.spelling) :
    Character.isBlank character = false := by
  have table : (all.all fun kind =>
      kind.spelling.all fun character => !Character.isBlank character) = true := by
    decide
  simp only [List.all_eq_true, Bool.not_eq_true'] at table
  exact table kind kind.mem_all character member

/-- Words that are looked up and hold no space tell their kinds, whatever follows. -/
theorem Kind.unique_of_joined
    {word : Kind → Text}
    (lookup : ∀ kind, (all.find? fun other => word other == word kind) = some kind)
    (spaceless : ∀ kind, ' ' ∉ word kind)
    {left right : Kind} {behind rest : Text}
    (joined : word left ++ ' ' :: behind = word right ++ ' ' :: rest) :
    left = right ∧ behind = rest := by
  obtain ⟨same, later⟩ := delimited_unique (spaceless left) (spaceless right) joined
  have found := lookup left
  rw [same, lookup right] at found
  exact ⟨(Option.some.inj found).symm, later⟩

theorem Kind.unbroken_spelling (kind : Kind) :
    '\n' ∉ kind.spelling := by
  intro member
  cases isBlank_eq_false_of_mem_spelling member

theorem Token.unbroken_display
    {token : Token} (lexeme : '\n' ∉ token.lexeme)
    (literal : '\n' ∉ token.literal.display) :
    '\n' ∉ token.display := by
  have kind := token.kind.unbroken_spelling
  simp [Token.display, kind, lexeme, literal]

theorem Literal.unbroken_absent :
    '\n' ∉ Literal.absent.display := by
  decide

theorem Segment.unbroken_display
    {segment : Segment} {line : Nat} {token : Token}
    (unbroken : '\n' ∉ segment.text)
    (found : segment.event? line = some (.token token)) :
    '\n' ∉ token.display := by
  cases segment with
  | number numeral =>
      cases found
      exact Token.unbroken_display unbroken numeral.nearest.unbroken_text
  | string body =>
      cases found
      have inside : '\n' ∉ body := by
        simpa [Segment.text] using unbroken
      exact Token.unbroken_display unbroken inside
  | symbol mark =>
      cases found
      exact Token.unbroken_display unbroken Literal.unbroken_absent
  | word letters =>
      cases found
      exact Token.unbroken_display unbroken Literal.unbroken_absent
  | _ => cases found

section Unbroken

variable {source : Text} (unbroken : '\n' ∉ source)

include unbroken

theorem unbroken_display_of_mem_tokens :
    ∀ token ∈ (scan source).tokens, '\n' ∉ token.display := by
  intro token member
  rw [scan_eq_ofSegments, Scan.tokens, List.mem_append, List.mem_singleton] at member
  rcases member with found | rfl
  · obtain ⟨segment, inRow, begun, contributes⟩ := exists_segment_of_mem_tokens found
    apply Segment.unbroken_display _ contributes
    intro feed
    apply unbroken
    rw [← flatMap_text_segments source]
    exact List.mem_flatMap_of_mem inRow feed
  · exact Token.unbroken_display List.not_mem_nil Literal.unbroken_absent

theorem lineBehind_of_unbroken :
    lineBehind source = 1 := by
  rw [lineBehind, Character.countP_isLineFeed_eq_zero_iff.mpr unbroken]

end Unbroken

end LoxLexer
