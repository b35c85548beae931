import LoxLexer.Program.Report

/-!
# What is shown, word by word

Tokens, messages, places and diagnostics as they are read: row by row, and where
colour is asked for with the control sequences in it.  The program puts the same
texts together from spans in a style, which are rendered at the very end.
-/

namespace LoxLexer

/-! ## Rows -/

/-- Rows of text, each of them closed by a line feed. -/
def closeRows (rows : List Text) : Text :=
  rows.flatMap fun row => row ++ ['\n']

@[simp]
theorem closeRows_append (rows more : List Text) :
    closeRows (rows ++ more) = closeRows rows ++ closeRows more :=
  List.flatMap_append

theorem closeRows_flatMap {α : Type} (parts : List α) (rows : α → List Text) :
    closeRows (parts.flatMap rows) = parts.flatMap fun part => closeRows (rows part) :=
  List.flatMap_assoc

theorem closeRows_eq_nil_iff {rows : List Text} :
    closeRows rows = [] ↔ rows = [] := by
  cases rows with
  | nil => simp [closeRows]
  | cons row rest => simp [closeRows]

/-- A token as it is read: the word for its kind, its characters and its value. -/
def Token.row (token : Token) : Text :=
  [' '].intercalate
    [token.kind.spelling, token.lexeme,
      match token.literal with
      | .absent => "nil".toList
      | .number value => value.text
      | .text body => body]

theorem Token.display_eq_row (token : Token) :
    token.display = token.row := by
  obtain ⟨kind, lexeme, literal, line⟩ := token
  cases literal <;> simp [display, row, Literal.display, List.intercalate_cons_cons]

theorem Token.rows_eq_closeRows (tokens : List Token) :
    rows tokens = closeRows (tokens.map row) := by
  rw [rows, closeRows, List.flatMap_map]
  simp only [display_eq_row]

/-! ## Sentences and places -/

/-- The sentence that tells of a fault. -/
def Fault.wording : Fault → Text
  | unterminatedString => "Unterminated string.".toList
  | unexpectedCharacter character =>
      "Unexpected character '".toList ++ Escape.character character ++ "'.".toList
  | malformedNumber lexeme => "Invalid number '".toList ++ lexeme ++ "'.".toList

theorem Fault.message_eq_wording (fault : Fault) :
    fault.message = fault.wording := by
  cases fault with
  | unterminatedString => rfl
  | unexpectedCharacter character => rfl
  | malformedNumber lexeme => rfl

/-- How a place is named: by its line, and by the file that the line is in. -/
def Location.wording : Location → Text
  | ⟨line, none⟩ => "line ".toList ++ Decimal.digits line
  | ⟨line, some filename⟩ => filename ++ [':'] ++ Decimal.digits line

theorem Location.text_eq_wording (location : Location) :
    location.text = location.wording := by
  obtain ⟨line, filename?⟩ := location
  cases filename? with
  | none => rfl
  | some filename => simp [text, wording]

/-! ## Diagnostics without colour -/

/-- The excerpt of a source line as it is read: an empty row, the line with its
number, and a row of carets. -/
def contextRows (line : Nat) (shown : Text) : List Text :=
  let number := Decimal.digits line
  let margin := List.replicate number.length ' '
  ["  ".toList ++ margin ++ " |".toList,
    "  ".toList ++ number ++ " | ".toList ++ shown,
    "  ".toList ++ margin ++ " | ".toList ++ List.replicate shown.length '^']

/-- The diagnostic of a lexical failure as it is read, row by row. -/
def diagnosticRows (message : Text) (location : Location) (shown : Text) : List Text :=
  ("Lexer Error: ".toList ++ message) :: ("  --> ".toList ++ location.wording) ::
    contextRows location.line shown

/-! ## Diagnostics in colour -/

/-- A piece of text in bold red. -/
def inRed (piece : Text) : Text :=
  "\x1b[1;31m".toList ++ piece ++ "\x1b[0m".toList

/-- A piece of text in bold blue. -/
def inBlue (piece : Text) : Text :=
  "\x1b[1;34m".toList ++ piece ++ "\x1b[0m".toList

/-- The rows of a diagnostic in colour: red for what is wrong, blue for the frame. -/
def colouredRows (message : Text) (location : Location) (shown : Text) : List Text :=
  let number := Decimal.digits location.line
  let margin := List.replicate number.length ' '
  [inRed "Lexer Error".toList ++ ": ".toList ++ message,
    "  ".toList ++ inBlue "-->".toList ++ [' '] ++ location.wording,
    "  ".toList ++ margin ++ [' '] ++ inBlue ['|'],
    "  ".toList ++ inBlue number ++ [' '] ++ inBlue ['|'] ++ [' '] ++ shown,
    "  ".toList ++ margin ++ [' '] ++ inBlue ['|'] ++ [' '] ++
      inRed (List.replicate shown.length '^')]

/-- The rows of a diagnostic, in colour or without. -/
def shownRows (coloured : Bool) (message : Text) (location : Location) (shown : Text) :
    List Text :=
  if coloured then colouredRows message location shown
  else diagnosticRows message location shown

theorem shownRows_ne_nil (coloured : Bool) (message : Text) (location : Location)
    (shown : Text) :
    shownRows coloured message location shown ≠ [] := by
  cases coloured <;> exact List.cons_ne_nil _ _

/-- The row that tells why a source text cannot be had. -/
def accessRow (coloured : Bool) (message : Text) : Text :=
  (if coloured then inRed "I/O Error".toList else "I/O Error".toList) ++
    ": ".toList ++ message

/-! ## Rendering -/

namespace Span

@[simp]
theorem renderAll_nil (coloured : Bool) :
    renderAll coloured [] = [] :=
  rfl

@[simp]
theorem renderAll_append (coloured : Bool) (left right : List Span) :
    renderAll coloured (left ++ right) =
      renderAll coloured left ++ renderAll coloured right :=
  List.flatMap_append

theorem renderAll_flatMap
    {α : Type} (coloured : Bool) (parts : List α) (spans : α → List Span) :
    renderAll coloured (parts.flatMap spans) =
      parts.flatMap fun part => renderAll coloured (spans part) :=
  List.flatMap_assoc

@[simp]
theorem render_plain (coloured : Bool) (text : Text) :
    render coloured (plain text) = text :=
  rfl

@[simp]
theorem render_uncoloured (style : Style) (text : Text) :
    render false (styled style text) = text :=
  rfl

@[simp]
theorem render_alarm (text : Text) :
    render true (styled .alarm text) = inRed text :=
  rfl

@[simp]
theorem render_frame (text : Text) :
    render true (styled .frame text) = inBlue text :=
  rfl

/-- Without colour nothing of a style is seen. -/
theorem renderAll_uncoloured (spans : List Span) :
    renderAll false spans = spans.flatMap Span.text := by
  have plain : render false = Span.text := by
    funext span
    cases style : span.style? with
    | none => simp [render, style]
    | some found => simp [render, style]
  rw [renderAll, plain]

end Span

theorem heading_lexical (message : Text) (location : Location) :
    (Failure.lexical message location).heading = "Lexer Error".toList :=
  rfl

/-- The diagnostic of a lexical failure, with `shown` for its source line. -/
def contextDiagnostic (message : Text) (location : Location) (shown : Text) : List Span :=
  (Failure.lexical message location).headline ++ Failure.arrow location ++
    Failure.excerpt location.line shown

/-- A diagnostic with a source line is read as its rows. -/
theorem renderAll_contextDiagnostic
    (coloured : Bool) (message : Text) (location : Location)
    {shown : Text} (present : shown ≠ []) :
    Span.renderAll coloured (contextDiagnostic message location shown) =
      closeRows (shownRows coloured message location shown) := by
  have carets : max shown.length 1 = shown.length :=
    Nat.max_eq_left (List.length_pos_iff.mpr present)
  rw [contextDiagnostic, Failure.headline, heading_lexical, Failure.arrow,
    Location.text_eq_wording, Failure.excerpt, carets]
  cases coloured with
  | false =>
      simp [Span.renderAll, Failure.gutter, Failure.message, shownRows, diagnosticRows,
        contextRows, closeRows]
  | true =>
      simp [Span.renderAll, Failure.gutter, Failure.message, shownRows, colouredRows,
        closeRows]

/-- The diagnostic of a failure to read is a single row. -/
theorem renderAll_access (coloured : Bool) (message : Text) :
    Span.renderAll coloured ((Failure.access message).diagnostic none) =
      closeRows [accessRow coloured message] := by
  have spans : (Failure.access message).diagnostic none =
      [.styled .alarm "I/O Error".toList, .plain (": ".toList ++ message ++ ['\n'])] :=
    rfl
  rw [spans]
  cases coloured with
  | false => simp [Span.renderAll, accessRow, closeRows]
  | true => simp [Span.renderAll, accessRow, closeRows]

end LoxLexer
