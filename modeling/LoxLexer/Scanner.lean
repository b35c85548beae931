import LoxLexer.Number.Numeral
import LoxLexer.Scan

/-! # The scanner

A scanner walks over a source text with one cursor and looks at most two
characters ahead.  Past the end it sees NUL, which a text may hold as well, so
the end is told by the position of the cursor and never by NUL alone.
-/

namespace LoxLexer

/-- A scan under way. -/
structure Scanner where
  source : Array Char
  /-- Where the segment begins that is being read. -/
  start : Nat
  /-- Where the next character stands. -/
  current : Nat
  /-- The line of the next character. -/
  line : Nat
  /-- The line of the character at `start`. -/
  startLine : Nat
  events : Array Event
  deriving DecidableEq, Repr

namespace Scanner

def ofText (source : Text) : Scanner :=
  ⟨source.toArray, 0, 0, 1, 1, #[]⟩

/-! ## The cursor -/

/-- The character `offset` places past the cursor, or NUL past the end. -/
def peekAt (scanner : Scanner) (offset : Nat) : Char :=
  scanner.source.getD (scanner.current + offset) '\x00'

def peek (scanner : Scanner) : Char :=
  scanner.peekAt 0

def peekNext (scanner : Scanner) : Char :=
  scanner.peekAt 1

def atEnd (scanner : Scanner) : Bool :=
  decide (scanner.source.size ≤ scanner.current)

theorem atEnd_eq_false_iff {scanner : Scanner} :
    scanner.atEnd = false ↔ scanner.current < scanner.source.size := by
  simp [atEnd]

/-- Where the cursor sees anything but NUL it is not at the end. -/
theorem atEnd_eq_false_of_peek
    {scanner : Scanner} (seen : scanner.peek ≠ '\x00') :
    scanner.atEnd = false := by
  rw [atEnd_eq_false_iff]
  apply Decidable.byContradiction
  intro outside
  apply seen
  simp only [peek, peekAt, Nat.add_zero, Array.getD]
  rw [dif_neg outside]

/-- Take the next character; there has to be one. -/
def advance (scanner : Scanner) (inside : scanner.atEnd = false) :
    Char × Scanner :=
  have bound := atEnd_eq_false_iff.mp inside
  (scanner.source[scanner.current], { scanner with current := scanner.current + 1 })

/-- Take the next character if it is `expected`, and tell whether it was. -/
def matchCharacter (scanner : Scanner) (expected : Char) : Bool × Scanner :=
  if found : scanner.peek = expected ∧ scanner.atEnd = false then
    (true, (scanner.advance found.2).2)
  else (false, scanner)

/-- Take characters for as long as `continues` holds, which it does only before
the end. -/
def advanceWhile
    (continues : Scanner → Bool)
    (bounded : ∀ scanner, continues scanner = true → scanner.atEnd = false)
    (scanner : Scanner) : Scanner :=
  if more : continues scanner = true then
    (scanner.advance (bounded scanner more)).2.advanceWhile continues bounded
  else scanner
termination_by scanner.source.size - scanner.current
decreasing_by
  have inside := atEnd_eq_false_iff.mp (bounded scanner more)
  simp only [advance]
  omega

/-! ## What has been found -/

/-- The characters between the start of the segment and the cursor. -/
def lexeme (scanner : Scanner) : Text :=
  (scanner.source.extract scanner.start scanner.current).toList

/-- The lexeme without its first and its last character. -/
def innerLexeme (scanner : Scanner) : Text :=
  (scanner.source.extract (scanner.start + 1) (scanner.current - 1)).toList

def addToken (scanner : Scanner) (kind : Kind) (literal : Literal) : Scanner :=
  { scanner with
    events := scanner.events.push
      (.token ⟨kind, scanner.lexeme, literal, scanner.startLine⟩) }

def addSymbol (scanner : Scanner) (mark : Symbol) : Scanner :=
  scanner.addToken (.symbol mark) .absent

def report (scanner : Scanner) (line : Nat) (fault : Fault) : Scanner :=
  { scanner with events := scanner.events.push (.fault ⟨line, fault⟩) }

/-! ## Reading the rest of a segment

The first character has been taken already.
-/

/-- A symbol that an equals sign may extend. -/
def scanOperator (scanner : Scanner) (alone extended : Symbol) : Scanner :=
  match scanner.matchCharacter '=' with
  | (true, passed) => passed.addSymbol extended
  | (false, passed) => passed.addSymbol alone

/-- A comment reaches up to the next line feed or the end. -/
def skipComment (scanner : Scanner) : Scanner :=
  scanner.advanceWhile (fun cursor => cursor.peek != '\n' && !cursor.atEnd) <| by
    intro cursor more
    simp only [Bool.and_eq_true, Bool.not_eq_true'] at more
    exact more.2

def scanSlash (scanner : Scanner) : Scanner :=
  match scanner.matchCharacter '/' with
  | (true, passed) => passed.skipComment
  | (false, passed) => passed.addSymbol .slash

/-- Count a line if the next character ends one. -/
def countLine (scanner : Scanner) : Scanner :=
  if scanner.peek = '\n' then { scanner with line := scanner.line + 1 } else scanner

@[simp]
theorem source_countLine (scanner : Scanner) :
    scanner.countLine.source = scanner.source := by
  unfold countLine
  split <;> rfl

@[simp]
theorem current_countLine (scanner : Scanner) :
    scanner.countLine.current = scanner.current := by
  unfold countLine
  split <;> rfl

theorem atEnd_countLine (scanner : Scanner) :
    scanner.countLine.atEnd = scanner.atEnd := by
  simp [atEnd]

/-- Take the characters of a string up to its closing quote or the end. -/
def advanceToQuote (scanner : Scanner) : Scanner :=
  if more : scanner.peek ≠ '"' ∧ scanner.atEnd = false then
    (scanner.countLine.advance
      (scanner.atEnd_countLine.trans more.2)).2.advanceToQuote
  else scanner
termination_by scanner.source.size - scanner.current
decreasing_by
  have inside := atEnd_eq_false_iff.mp more.2
  simp only [advance, source_countLine, current_countLine]
  omega

/-- A string token holds its body without the quotes; a string that is never
closed is reported on the line of its opening quote. -/
def scanString (scanner : Scanner) : Scanner :=
  let passed := scanner.advanceToQuote
  if inside : passed.atEnd = false then
    let closed := (passed.advance inside).2
    closed.addToken .string (.text closed.innerLexeme)
  else passed.report passed.startLine .unterminatedString

theorem ne_nul_of_isDigit {character : Char}
    (digit : Character.isDigit character = true) :
    character ≠ '\x00' := by
  rintro rfl
  exact absurd digit (by decide)

theorem ne_nul_of_isWordCharacter {character : Char}
    (member : Character.isWordCharacter character = true) :
    character ≠ '\x00' := by
  rintro rfl
  exact absurd member (by decide)

/-- No digit is NUL, so a row of digits stops at the end by itself. -/
def skipDigits (scanner : Scanner) : Scanner :=
  scanner.advanceWhile (fun cursor => Character.isDigit cursor.peek) <| by
    intro cursor digit
    exact atEnd_eq_false_of_peek (ne_nul_of_isDigit digit)

/-- A point belongs to a number only where a digit follows it. -/
def skipFraction (scanner : Scanner) : Scanner :=
  if pointed : scanner.peek = '.' ∧ Character.isDigit scanner.peekNext = true then
    (scanner.advance
      (atEnd_eq_false_of_peek (by rw [pointed.1]; decide))).2.skipDigits
  else scanner

def scanNumber (scanner : Scanner) : Scanner :=
  let passed := scanner.skipDigits.skipFraction
  match Numeral.ofText? passed.lexeme with
  | some numeral => passed.addToken .number (.number numeral.nearest)
  | none => passed.report passed.startLine (.malformedNumber passed.lexeme)

def skipWord (scanner : Scanner) : Scanner :=
  scanner.advanceWhile (fun cursor => Character.isWordCharacter cursor.peek) <| by
    intro cursor member
    exact atEnd_eq_false_of_peek (ne_nul_of_isWordCharacter member)

def scanWord (scanner : Scanner) : Scanner :=
  let passed := scanner.skipWord
  passed.addToken (Kind.ofWord passed.lexeme) .absent

/-! ## Reading a segment -/

/-- Read the segment that begins with the character `first`, just taken. -/
def scanFrom (scanner : Scanner) (first : Char) : Scanner :=
  match first with
  | '(' => scanner.addSymbol .leftParen
  | ')' => scanner.addSymbol .rightParen
  | '{' => scanner.addSymbol .leftBrace
  | '}' => scanner.addSymbol .rightBrace
  | ',' => scanner.addSymbol .comma
  | '.' => scanner.addSymbol .dot
  | '-' => scanner.addSymbol .minus
  | '+' => scanner.addSymbol .plus
  | ';' => scanner.addSymbol .semicolon
  | '*' => scanner.addSymbol .star
  | '!' => scanner.scanOperator .bang .bangEqual
  | '=' => scanner.scanOperator .equal .equalEqual
  | '<' => scanner.scanOperator .less .lessEqual
  | '>' => scanner.scanOperator .greater .greaterEqual
  | '/' => scanner.scanSlash
  | ' ' => scanner
  | '\r' => scanner
  | '\t' => scanner
  | '\n' => { scanner with line := scanner.line + 1 }
  | '"' => scanner.scanString
  | _ =>
      if Character.isDigit first then scanner.scanNumber
      else if Character.isLetter first then scanner.scanWord
      else scanner.report scanner.line (.unexpectedCharacter first)

def beginSegment (scanner : Scanner) : Scanner :=
  { scanner with start := scanner.current, startLine := scanner.line }

theorem atEnd_beginSegment (scanner : Scanner) :
    scanner.beginSegment.atEnd = scanner.atEnd :=
  rfl

/-- Read the segment that begins at the cursor. -/
def scanSegment (scanner : Scanner) (inside : scanner.atEnd = false) : Scanner :=
  let taken := scanner.beginSegment.advance
    (scanner.atEnd_beginSegment.trans inside)
  taken.2.scanFrom taken.1

/-! ## Progress -/

/-- One scan is a later stage of another: over the same source, and not behind
it. -/
structure Follows (earlier later : Scanner) : Prop where
  source : later.source = earlier.source
  current : earlier.current ≤ later.current

namespace Follows

theorem refl (scanner : Scanner) :
    Follows scanner scanner :=
  ⟨rfl, Nat.le_refl _⟩

theorem trans
    {first second third : Scanner}
    (earlier : Follows first second) (later : Follows second third) :
    Follows first third :=
  ⟨later.source.trans earlier.source,
    Nat.le_trans earlier.current later.current⟩

theorem advance (scanner : Scanner) (inside : scanner.atEnd = false) :
    Follows scanner (scanner.advance inside).2 :=
  ⟨rfl, Nat.le_succ _⟩

theorem matchCharacter (scanner : Scanner) (expected : Char) :
    Follows scanner (scanner.matchCharacter expected).2 := by
  unfold Scanner.matchCharacter
  split
  · rename_i found
    exact advance scanner found.2
  · exact refl scanner

theorem advanceWhile
    (continues : Scanner → Bool)
    (bounded : ∀ scanner, continues scanner = true → scanner.atEnd = false)
    (scanner : Scanner) :
    Follows scanner (scanner.advanceWhile continues bounded) := by
  fun_induction Scanner.advanceWhile continues bounded scanner with
  | case1 scanner more induction =>
      exact (advance scanner _).trans induction
  | case2 scanner stopped =>
      exact refl scanner

theorem addSymbol (scanner : Scanner) (mark : Symbol) :
    Follows scanner (scanner.addSymbol mark) :=
  ⟨rfl, Nat.le_refl _⟩

theorem scanOperator (scanner : Scanner) (alone extended : Symbol) :
    Follows scanner (scanner.scanOperator alone extended) := by
  have matched := matchCharacter scanner '='
  unfold Scanner.scanOperator
  split <;> rename_i found <;> rw [found] at matched
  · exact matched.trans (addSymbol _ extended)
  · exact matched.trans (addSymbol _ alone)

theorem scanSlash (scanner : Scanner) :
    Follows scanner scanner.scanSlash := by
  have matched := matchCharacter scanner '/'
  unfold Scanner.scanSlash
  split <;> rename_i found <;> rw [found] at matched
  · exact matched.trans (advanceWhile _ _ _)
  · exact matched.trans (addSymbol _ .slash)

theorem advanceToQuote (scanner : Scanner) :
    Follows scanner scanner.advanceToQuote := by
  fun_induction Scanner.advanceToQuote scanner with
  | case1 scanner more induction =>
      have counted : Follows scanner scanner.countLine :=
        ⟨source_countLine scanner, Nat.le_of_eq (current_countLine scanner).symm⟩
      exact (counted.trans (advance _ _)).trans induction
  | case2 scanner stopped =>
      exact refl scanner

theorem scanString (scanner : Scanner) :
    Follows scanner scanner.scanString := by
  have passed := advanceToQuote scanner
  unfold Scanner.scanString
  dsimp only
  split
  · exact ⟨passed.source, Nat.le_succ_of_le passed.current⟩
  · exact ⟨passed.source, passed.current⟩

theorem skipFraction (scanner : Scanner) :
    Follows scanner scanner.skipFraction := by
  unfold Scanner.skipFraction
  split
  · exact (advance scanner _).trans (advanceWhile _ _ _)
  · exact refl scanner

theorem scanNumber (scanner : Scanner) :
    Follows scanner scanner.scanNumber := by
  have passed : Follows scanner scanner.skipDigits.skipFraction :=
    (advanceWhile _ _ scanner).trans (skipFraction _)
  unfold Scanner.scanNumber
  dsimp only
  split
  · exact ⟨passed.source, passed.current⟩
  · exact ⟨passed.source, passed.current⟩

theorem scanWord (scanner : Scanner) :
    Follows scanner scanner.scanWord := by
  have passed : Follows scanner scanner.skipWord := advanceWhile _ _ scanner
  exact ⟨passed.source, passed.current⟩

theorem scanFrom (scanner : Scanner) (first : Char) :
    Follows scanner (scanner.scanFrom first) := by
  unfold Scanner.scanFrom
  split
  case h_11 => exact scanOperator scanner _ _
  case h_12 => exact scanOperator scanner _ _
  case h_13 => exact scanOperator scanner _ _
  case h_14 => exact scanOperator scanner _ _
  case h_15 => exact scanSlash scanner
  case h_20 => exact scanString scanner
  case h_21 =>
    split
    · exact scanNumber scanner
    · split
      · exact scanWord scanner
      · exact ⟨rfl, Nat.le_refl _⟩
  all_goals exact ⟨rfl, Nat.le_refl _⟩

end Follows

theorem source_scanSegment (scanner : Scanner) (inside : scanner.atEnd = false) :
    (scanner.scanSegment inside).source = scanner.source :=
  (Follows.scanFrom _ _).source

theorem current_lt_scanSegment (scanner : Scanner) (inside : scanner.atEnd = false) :
    scanner.current < (scanner.scanSegment inside).current := by
  have begun := scanner.atEnd_beginSegment.trans inside
  have read := Follows.scanFrom
    (scanner.beginSegment.advance begun).2 (scanner.beginSegment.advance begun).1
  exact Nat.lt_of_lt_of_le scanner.current.lt_succ_self read.current

/-! ## The whole scan -/

def scanAll (scanner : Scanner) : Scanner :=
  if inside : scanner.atEnd = false then (scanner.scanSegment inside).scanAll
  else scanner
termination_by scanner.source.size - scanner.current
decreasing_by
  have before := atEnd_eq_false_iff.mp inside
  have progress := scanner.current_lt_scanSegment inside
  rw [source_scanSegment]
  omega

end Scanner

/-- Scan a source text from its first line. -/
def scan (source : Text) : Scan :=
  let finished := (Scanner.ofText source).scanAll
  ⟨finished.events.toList, finished.line⟩

end LoxLexer
