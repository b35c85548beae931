import LoxLexer.Proofs.Coverage
import LoxLexer.Proofs.Opening

/-!
# Shapes of tokens

The kind of a token tells what its characters can be, and kind and characters
together tell the value that it carries.  The characters tell the kind as well, so
in the end they determine everything but the line.
-/

namespace LoxLexer

/-- What a token of some kind is written as, and the value that goes with it. -/
inductive Shape : Kind → Text → Literal → Prop where
  | symbol (mark : Symbol) : Shape (.symbol mark) mark.spelling .absent
  | keyword (word : Keyword) : Shape (.keyword word) word.spelling .absent
  | identifier {letters : Text} :
      IsWord letters → Keyword.ofText? letters = none →
      Shape .identifier letters .absent
  | number {numeral : Numeral} :
      numeral.WellFormed → Shape .number numeral.text (.number numeral.nearest)
  | string {body : Text} :
      '"' ∉ body → Shape .string ('"' :: body ++ ['"']) (.text body)
  | endOfInput : Shape .endOfInput [] .absent

/-- A token that is written as its kind has it. -/
def Token.IsShaped (token : Token) : Prop :=
  Shape token.kind token.lexeme token.literal

/-! ## Tokens of a scan -/

theorem shape_ofWord {letters : Text} (isWord : IsWord letters) :
    Shape (Kind.ofWord letters) letters .absent := by
  rw [Kind.ofWord]
  cases found : Keyword.ofText? letters with
  | none =>
      exact .identifier isWord found
  | some word =>
      rw [← Keyword.ofText?_eq_some_iff.mp found]
      exact .keyword word

theorem Segment.isShaped_of_event?
    {segment : Segment} {line : Nat} {token : Token} (formed : segment.WellFormed)
    (contributes : segment.event? line = some (.token token)) :
    token.IsShaped := by
  cases segment with
  | symbol mark =>
      cases contributes
      exact .symbol mark
  | word letters =>
      cases contributes
      exact shape_ofWord formed
  | number numeral =>
      cases contributes
      exact .number formed
  | string body =>
      cases contributes
      exact .string formed
  | _ =>
      cases contributes

/-- Every token of a scan is shaped. -/
theorem isShaped_of_mem_tokens (source : Text) :
    ∀ token ∈ (scan source).tokens, token.IsShaped := by
  intro token member
  rw [scan_eq_ofSegments, Scan.tokens, List.mem_append, List.mem_singleton] at member
  rcases member with found | rfl
  · obtain ⟨segment, inRow, begun, contributes⟩ := exists_segment_of_mem_tokens found
    exact Segment.isShaped_of_event? ((rowFits_segments source).wellFormed inRow)
      contributes
  · exact .endOfInput

/-! ## What a shape determines -/

theorem Numeral.WellFormed.text_injective
    {left right : Numeral} (formed : left.WellFormed) (formedRight : right.WellFormed)
    (same : left.text = right.text) :
    left = right := by
  have read := ofText?_text formed
  rw [same, ofText?_text formedRight] at read
  exact (Option.some.inj read).symm

theorem Shape.literal_unique
    {kind : Kind} {lexeme : Text} {left right : Literal}
    (shape : Shape kind lexeme left) (shapeRight : Shape kind lexeme right) :
    left = right := by
  generalize same : lexeme = other at shapeRight
  cases shape with
  | number formed =>
      cases shapeRight with
      | number formedRight =>
          rw [formed.text_injective formedRight same]
  | string unquoted =>
      cases shapeRight with
      | string unquotedRight =>
          rw [(string_unique unquoted unquotedRight (congrArg (· ++ []) same)).1]
  | _ =>
      cases shapeRight
      rfl

/-! ## What the characters determine -/

/-- The kind of the token that a lexeme is read as; only the end of the input is
written as nothing. -/
def Kind.ofLexeme (lexeme : Text) : Kind :=
  match Opening.ofText? lexeme with
  | some .letter => ofWord lexeme
  | some .digit => number
  | some .quote => string
  | _ => ((Symbol.ofText? lexeme).map symbol).getD endOfInput

theorem Keyword.opening (word : Keyword) :
    Opening.ofText? word.spelling = some .letter := by
  cases word <;> rfl

theorem Shape.kind_eq_ofLexeme
    {kind : Kind} {lexeme : Text} {literal : Literal}
    (shape : Shape kind lexeme literal) :
    kind = Kind.ofLexeme lexeme := by
  rw [Kind.ofLexeme]
  cases shape with
  | symbol mark =>
      simp [mark.opening]
  | keyword word =>
      simp [word.opening, Kind.ofWord]
  | identifier isWord unreserved =>
      simp [isWord.opening, Kind.ofWord, unreserved]
  | number formed =>
      simp [(Numeral.WellFormed.isNumber formed).opening]
  | string unquoted =>
      rw [IsString.opening ⟨_, unquoted, rfl⟩]
  | endOfInput =>
      rfl

/-! ## Kind, lexeme and literal together -/

namespace Kind

theorem exists_keyword_of_lookup
    {kind : Kind} {text : Text} (found : (Keyword.ofText? text).map keyword = some kind) :
    ∃ word, kind = .keyword word := by
  obtain ⟨word, _, isWord⟩ := Option.map_eq_some_iff.mp found
  exact ⟨word, isWord.symm⟩

/-- A kind is a keyword just where its printed form is looked up as that kind. -/
theorem isKeyword_iff_lookup (kind : Kind) :
    kind.isKeyword = true ↔
      (Keyword.ofText? kind.spelling).map keyword = some kind :=
  beq_iff_eq

/-- The kinds that are looked up as themselves are those of the reserved words. -/
theorem isKeyword_iff (kind : Kind) :
    kind.isKeyword = true ↔ ∃ word, kind = .keyword word := by
  rw [isKeyword_iff_lookup]
  constructor
  · exact exists_keyword_of_lookup
  · intro ⟨word, isWord⟩
    rw [isWord]
    exact congrArg (Option.map keyword) word.ofText?_spelling

end Kind

/-- The kind of a token fits its lexeme and its literal. -/
structure Token.IsConsistent (token : Token) : Prop where
  fixed : (∃ mark, token.kind = .symbol mark) ∨ (∃ word, token.kind = .keyword word) →
    token.lexeme = token.kind.spelling ∧ token.literal = .absent
  identifier : token.kind = .identifier →
    IsWord token.lexeme ∧ Keyword.ofText? token.lexeme = none ∧ token.literal = .absent
  number : token.kind = .number →
    IsNumber token.lexeme ∧ ∃ value, token.literal = .number value
  string : token.kind = .string →
    ∃ body, '"' ∉ body ∧ token.lexeme = '"' :: body ++ ['"'] ∧ token.literal = .text body
  reserved : token.kind.isKeyword = true ↔
    (Keyword.ofText? token.lexeme).map .keyword = some token.kind

namespace Shape

variable {kind : Kind} {lexeme : Text} {literal : Literal}

theorem fixed
    (shape : Shape kind lexeme literal)
    (isFixed : (∃ mark, kind = .symbol mark) ∨ ∃ word, kind = .keyword word) :
    lexeme = kind.spelling ∧ literal = .absent := by
  cases shape with
  | symbol mark => exact ⟨rfl, rfl⟩
  | keyword word => exact ⟨rfl, rfl⟩
  | _ => simp at isFixed

theorem reserved_iff (shape : Shape kind lexeme literal) :
    kind.isKeyword = true ↔ (Keyword.ofText? lexeme).map .keyword = some kind := by
  rw [Kind.isKeyword_iff]
  constructor
  · rintro ⟨word, rfl⟩
    cases shape
    simp
  · exact Kind.exists_keyword_of_lookup

end Shape

theorem Token.IsShaped.isConsistent
    {token : Token} (shaped : token.IsShaped) :
    token.IsConsistent := by
  obtain ⟨kind, lexeme, literal, line⟩ := token
  refine ⟨Shape.fixed shaped, ?_, ?_, ?_, Shape.reserved_iff shaped⟩
  · rintro rfl
    cases shaped with
    | identifier isWord unreserved => exact ⟨isWord, unreserved, rfl⟩
  · rintro rfl
    cases shaped with
    | number formed => exact ⟨Numeral.WellFormed.isNumber formed, _, rfl⟩
  · rintro rfl
    cases shaped with
    | string unquoted => exact ⟨_, unquoted, rfl, rfl⟩

/-- Kind, lexeme and literal of every token of a scan fit together, and only the
last token marks the end of the input.  Over the scans of all source texts the
lexeme alone determines kind and literal. -/
theorem lexeme_determines_token :
    (∀ kind : Kind,
      (kind.isKeyword = true ↔ ∃ word, kind = .keyword word) ∧
      (kind.isKeyword = true ↔
        (Keyword.ofText? kind.spelling).map .keyword = some kind)) ∧
    ∀ source,
      (∀ token ∈ (scan source).tokens, token.IsConsistent) ∧
      (∃ found lastLine,
        (scan source).tokens = found ++ [⟨.endOfInput, [], .absent, lastLine⟩] ∧
        ∀ token ∈ found, token.kind ≠ .endOfInput) ∧
      ∀ token ∈ (scan source).tokens, ∀ other, ∀ twin ∈ (scan other).tokens,
        token.lexeme = twin.lexeme →
          token.kind = twin.kind ∧ token.literal = twin.literal := by
  refine ⟨fun kind => ⟨kind.isKeyword_iff, kind.isKeyword_iff_lookup⟩, fun source =>
    ⟨?consistent, ?last, ?determined⟩⟩
  case consistent =>
    intro token member
    exact (isShaped_of_mem_tokens source token member).isConsistent
  case last =>
    refine ⟨_, _, rfl, ?_⟩
    rw [scan_eq_ofSegments]
    exact fun _ => kind_ne_endOfInput_of_mem
  case determined =>
    intro token member other twin memberOther same
    have shape : Shape token.kind token.lexeme token.literal :=
      isShaped_of_mem_tokens source token member
    have shapeTwin : Shape twin.kind twin.lexeme twin.literal :=
      isShaped_of_mem_tokens other twin memberOther
    have kinds : token.kind = twin.kind := by
      rw [shape.kind_eq_ofLexeme, shapeTwin.kind_eq_ofLexeme, same]
    rw [kinds, same] at shape
    exact ⟨kinds, shape.literal_unique shapeTwin⟩

end LoxLexer
