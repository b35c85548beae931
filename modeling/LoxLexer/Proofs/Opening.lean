import LoxLexer.Proofs.Grammar
import Mathlib.Data.List.Basic

/-!
# How lexical texts begin

The first character of a text settles which lexical texts it can be.  The
openings exclude each other, so two lexical texts that begin alike are of one
kind, but for the slash, which a comment begins with as well.
-/

namespace LoxLexer

/-- What the first character of a lexical text says about it. -/
inductive Opening where
  | blank
  | quote
  | digit
  | letter
  | mark
  deriving DecidableEq, Repr

namespace Opening

def ofCharacter (character : Char) : Opening :=
  if Character.isBlank character then blank
  else if Character.isQuote character then quote
  else if Character.isDigit character then digit
  else if Character.isLetter character then letter
  else mark

def ofText? (text : Text) : Option Opening :=
  text.head?.map ofCharacter

/-- The lexemes with a given opening. -/
def Begins : Opening → Text → Prop
  | blank, _ => False
  | quote, text => IsString text
  | digit, text => IsNumber text
  | letter, text => IsWord text
  | mark, text => ∃ symbol : Symbol, symbol.spelling = text

/-- The lexical texts with a given opening. -/
def Allows : Opening → Text → Prop
  | blank, text => IsBlank text
  | mark, text => mark.Begins text ∨ IsComment text
  | opening, text => opening.Begins text

theorem ofCharacter_of_isBlank {character : Char}
    (isBlank : Character.isBlank character = true) :
    ofCharacter character = blank := by
  simp [ofCharacter, isBlank]

theorem ofCharacter_of_isDigit {character : Char}
    (isDigit : Character.isDigit character = true) :
    ofCharacter character = digit := by
  have member := Character.isWordCharacter_of_isDigit isDigit
  simp [ofCharacter, Character.isBlank_eq_false_of_isWordCharacter member,
    Character.isQuote_eq_false_of_isWordCharacter member, isDigit]

theorem ofCharacter_of_isLetter {character : Char}
    (isLetter : Character.isLetter character = true) :
    ofCharacter character = letter := by
  have member := Character.isWordCharacter_of_isLetter isLetter
  simp [ofCharacter, Character.isBlank_eq_false_of_isWordCharacter member,
    Character.isQuote_eq_false_of_isWordCharacter member,
    Character.isDigit_eq_false_of_isLetter isLetter, isLetter]

theorem ofCharacter_eq_digit_iff {character : Char} :
    ofCharacter character = digit ↔ Character.isDigit character = true := by
  refine ⟨fun opening => ?_, ofCharacter_of_isDigit⟩
  grind [ofCharacter]

theorem ofCharacter_eq_letter_iff {character : Char} :
    ofCharacter character = letter ↔ Character.isLetter character = true := by
  refine ⟨fun opening => ?_, ofCharacter_of_isLetter⟩
  grind [ofCharacter]

/-- Two texts that begin the same text open alike. -/
theorem ofText?_eq_of_joined
    {left right behind rest : Text} (presentLeft : left ≠ []) (presentRight : right ≠ [])
    (joined : left ++ behind = right ++ rest) :
    ofText? left = ofText? right := by
  rw [ofText?, ofText?, ← List.head?_append_of_ne_nil left presentLeft, joined,
    List.head?_append_of_ne_nil right presentRight]

end Opening

/-! ## The openings of lexemes -/

theorem IsWord.opening
    {text : Text} (isWord : IsWord text) :
    Opening.ofText? text = some .letter := by
  cases text with
  | nil =>
      exact absurd isWord id
  | cons first rest =>
      exact congrArg some (Opening.ofCharacter_of_isLetter isWord.1)

theorem IsDigits.opening
    {digits : Text} (isDigits : IsDigits digits) (rest : Text) :
    Opening.ofText? (digits ++ rest) = some .digit := by
  cases digits with
  | nil =>
      exact absurd rfl isDigits.1
  | cons digit others =>
      have isDigit := isDigits.2 digit (List.mem_cons_self ..)
      exact congrArg some (Opening.ofCharacter_of_isDigit isDigit)

theorem IsNumber.opening
    {text : Text} (isNumber : IsNumber text) :
    Opening.ofText? text = some .digit := by
  rcases isNumber with digits | ⟨whole, fraction, digits, _, rfl⟩
  · simpa using digits.opening []
  · exact digits.opening ('.' :: fraction)

theorem IsString.opening
    {text : Text} (isString : IsString text) :
    Opening.ofText? text = some .quote := by
  obtain ⟨body, _, rfl⟩ := isString
  rfl

theorem Symbol.opening (mark : Symbol) :
    Opening.ofText? mark.spelling = some .mark := by
  cases mark <;> rfl

theorem Symbol.eq_slash_of_head
    {mark : Symbol} (head : mark.spelling.head? = some '/') :
    mark = .slash := by
  cases mark
  case slash => rfl
  all_goals cases head

theorem Symbol.eq_dot_of_head
    {mark : Symbol} (head : mark.spelling.head? = some '.') :
    mark = .dot := by
  cases mark
  case dot => rfl
  all_goals cases head

section Lexeme

variable {text : Text}

theorem IsLexeme.opening
    (lexeme : IsLexeme text) :
    ∃ opening : Opening,
      Opening.ofText? text = some opening ∧ opening.Begins text := by
  cases lexeme with
  | symbol mark =>
      exact ⟨.mark, mark.opening, mark, rfl⟩
  | word isWord =>
      exact ⟨.letter, isWord.opening, isWord⟩
  | number isNumber =>
      exact ⟨.digit, isNumber.opening, isNumber⟩
  | string isString =>
      exact ⟨.quote, isString.opening, isString⟩

theorem IsLexeme.begins
    {opening : Opening} (lexeme : IsLexeme text)
    (opens : Opening.ofText? text = some opening) :
    opening.Begins text := by
  obtain ⟨found, isFound, begins⟩ := lexeme.opening
  obtain rfl := Option.some.inj (isFound.symm.trans opens)
  exact begins

theorem IsLexeme.isWord_iff (lexeme : IsLexeme text) :
    IsWord text ↔ Opening.ofText? text = some .letter :=
  ⟨IsWord.opening, lexeme.begins⟩

theorem IsLexeme.isNumber_iff (lexeme : IsLexeme text) :
    IsNumber text ↔ Opening.ofText? text = some .digit :=
  ⟨IsNumber.opening, lexeme.begins⟩

end Lexeme

/-! ## What an opening allows -/

theorem Opening.Begins.allows
    {opening : Opening} {text : Text} (begins : opening.Begins text) :
    opening.Allows text := by
  cases opening with
  | blank =>
      cases begins
  | mark =>
      exact Or.inl begins
  | _ =>
      exact begins

theorem IsLexical.allows
    {text : Text} {opening : Opening} (lexical : IsLexical text)
    (opens : Opening.ofText? text = some opening) :
    opening.Allows text := by
  cases lexical with
  | lexeme lexeme =>
      exact (lexeme.begins opens).allows
  | comment isComment =>
      obtain ⟨body, unbroken, rfl⟩ := isComment
      cases opens
      exact Or.inr ⟨body, unbroken, rfl⟩
  | blank isBlank =>
      obtain ⟨character, isBlank, rfl⟩ := isBlank
      cases (Opening.ofCharacter_of_isBlank isBlank).symm.trans (Option.some.inj opens)
      exact ⟨character, isBlank, rfl⟩

theorem IsLexeme.ne_nil
    {text : Text} (lexeme : IsLexeme text) :
    text ≠ [] := by
  obtain ⟨opening, opens, _⟩ := lexeme.opening
  rintro rfl
  cases opens

theorem IsLexical.ne_nil
    {text : Text} (lexical : IsLexical text) :
    text ≠ [] := by
  cases lexical with
  | lexeme lexeme =>
      exact lexeme.ne_nil
  | comment isComment =>
      obtain ⟨body, _, rfl⟩ := isComment
      exact List.cons_ne_nil _ _
  | blank isBlank =>
      obtain ⟨character, _, rfl⟩ := isBlank
      exact List.cons_ne_nil _ _

end LoxLexer
