import LoxLexer.Number.Numeral
import LoxLexer.Token.Symbol

/-!
# The lexical grammar

The grammar says which texts are words, numbers, strings, comments and blanks,
and nothing of how a scanner finds them.  The first character of a text tells
which of these it can be.
-/

namespace LoxLexer

/-! ## Character classes -/

namespace Character

theorem isBlank_iff {character : Char} :
    isBlank character = true ↔
      character = ' ' ∨ character = '\t' ∨ character = '\r' ∨
        character = '\n' := by
  simp [isBlank, or_assoc]

@[simp]
theorem isQuote_iff {character : Char} :
    isQuote character = true ↔ character = '"' := by
  simp [isQuote]

@[simp]
theorem isLineFeed_iff {character : Char} :
    isLineFeed character = true ↔ character = '\n' := by
  simp [isLineFeed]

theorem countP_isLineFeed_eq_zero_iff {text : Text} :
    text.countP isLineFeed = 0 ↔ '\n' ∉ text := by
  rw [← List.forall_mem_ne', List.countP_eq_zero]
  simp only [isLineFeed_iff]

theorem isWordCharacter_of_isDigit {character : Char}
    (digit : isDigit character = true) :
    isWordCharacter character = true := by
  simp [isWordCharacter, digit]

theorem isWordCharacter_of_isLetter {character : Char}
    (letter : isLetter character = true) :
    isWordCharacter character = true := by
  simp [isWordCharacter, letter]

theorem isBlank_eq_false_of_isWordCharacter {character : Char}
    (member : isWordCharacter character = true) :
    isBlank character = false := by
  rw [Bool.eq_false_iff, Ne, isBlank_iff]
  rintro (rfl | rfl | rfl | rfl) <;> exact absurd member (by decide)

theorem isQuote_eq_false_of_isWordCharacter {character : Char}
    (member : isWordCharacter character = true) :
    isQuote character = false := by
  rw [Bool.eq_false_iff, Ne, isQuote_iff]
  rintro rfl
  exact absurd member (by decide)

theorem isLineFeed_eq_false_of_isWordCharacter {character : Char}
    (member : isWordCharacter character = true) :
    isLineFeed character = false := by
  rw [Bool.eq_false_iff, Ne, isLineFeed_iff]
  rintro rfl
  exact absurd member (by decide)

/-- In ASCII every letter stands behind the digits. -/
theorem le_toNat_of_isLetter {character : Char}
    (letter : isLetter character = true) :
    65 ≤ character.toNat := by
  rcases (Bool.or_eq_true _ _).mp letter with alphabetic | underscore
  · rcases (Bool.or_eq_true _ _).mp alphabetic with upper | lower
    · exact UInt32.le_iff_toNat_le.mp (of_decide_eq_true upper).1
    · have above := of_decide_eq_true ((Bool.and_eq_true _ _).mp lower).1
      have bound : 97 ≤ character.toNat := UInt32.le_iff_toNat_le.mp above
      omega
  · rw [eq_of_beq underscore]
    decide

theorem isDigit_eq_false_of_isLetter {character : Char}
    (letter : isLetter character = true) :
    isDigit character = false := by
  rw [Bool.eq_false_iff]
  intro digit
  have above := le_toNat_of_isLetter letter
  have below : character.toNat ≤ 57 := (Char.isDigit_iff_toNat.mp digit).2
  omega

end Character

/-! ## Classes of texts -/

/-- A letter and then letters and digits. -/
def IsWord : Text → Prop
  | [] => False
  | first :: rest =>
      Character.isLetter first = true ∧
        ∀ character ∈ rest, Character.isWordCharacter character = true

theorem IsWord.all_wordCharacters
    {text : Text} (isWord : IsWord text) :
    ∀ character ∈ text, Character.isWordCharacter character = true := by
  cases text with
  | nil =>
      simp
  | cons first rest =>
      intro character member
      rcases List.mem_cons.mp member with rfl | later
      · exact Character.isWordCharacter_of_isLetter isWord.1
      · exact isWord.2 character later

/-- One digit or more. -/
def IsDigits (text : Text) : Prop :=
  text ≠ [] ∧ ∀ character ∈ text, Character.isDigit character = true

/-- Digits, or digits on both sides of a point. -/
def IsNumber (text : Text) : Prop :=
  IsDigits text ∨
    ∃ whole fraction,
      IsDigits whole ∧ IsDigits fraction ∧ text = whole ++ '.' :: fraction

/-- Two quotes, and none between them. -/
def IsString (text : Text) : Prop :=
  ∃ body, '"' ∉ body ∧ text = '"' :: body ++ ['"']

/-- Two slashes, and no line feed behind them. -/
def IsComment (text : Text) : Prop :=
  ∃ body, '\n' ∉ body ∧ text = '/' :: '/' :: body

instance decidableIsComment (text : Text) : Decidable (IsComment text) :=
  decidable_of_iff (text.take 2 = ['/', '/'] ∧ '\n' ∉ text.drop 2) <| by
    constructor
    · rintro ⟨front, unbroken⟩
      refine ⟨text.drop 2, unbroken, ?_⟩
      rw [← List.take_append_drop 2 text, front]
      rfl
    · rintro ⟨body, unbroken, rfl⟩
      exact ⟨rfl, unbroken⟩

def IsBlank (text : Text) : Prop :=
  ∃ character, Character.isBlank character = true ∧ text = [character]

/-- What the tokens of a source text are written as. -/
inductive IsLexeme : Text → Prop where
  | symbol (mark : Symbol) : IsLexeme mark.spelling
  | word {text : Text} : IsWord text → IsLexeme text
  | number {text : Text} : IsNumber text → IsLexeme text
  | string {text : Text} : IsString text → IsLexeme text

inductive IsLexical : Text → Prop where
  | lexeme {text : Text} : IsLexeme text → IsLexical text
  | comment {text : Text} : IsComment text → IsLexical text
  | blank {text : Text} : IsBlank text → IsLexical text

/-- A character that no lexical text begins with: no blank, no quote, no
digit, no letter, and not the first character of a symbol. -/
structure IsStray (character : Char) : Prop where
  blank : Character.isBlank character = false
  quote : Character.isQuote character = false
  digit : Character.isDigit character = false
  letter : Character.isLetter character = false
  symbol : ∀ mark : Symbol, mark.spelling.head? ≠ some character

end LoxLexer
