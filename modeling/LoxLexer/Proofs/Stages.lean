import LoxLexer.Proofs.LineNumbers

/-!
# The scanner, turn by turn

The scanner runs through one loop over the segments and through loops inside comments,
strings, numbers and words.  A stage stands at the head of one of these loops, and a
turn goes on to the head of the next turn, be it of the same loop or of another one.

Nothing vouches for an access here.  Taking a character and cutting out a stretch of the
source compare with the size of the source when they are made, and a turn fails if one
of them is out of range.  Where turns do not fail they lead to what the scanner comes to.
-/

namespace LoxLexer

/-- The loops of the scanner.  The digits of a number are read in one loop in front of the
point and in another one behind it. -/
inductive Loop where
  | segments
  | comment
  | string
  | whole
  | fraction
  | word
  deriving DecidableEq, Repr

/-- A scanner at the head of one of its loops. -/
structure Stage where
  loop : Loop
  scanner : Scanner
  deriving DecidableEq, Repr

/-! ## Checked accesses -/

namespace Scanner

/-- Take the next character, which fails past the end of the source. -/
def take? (scanner : Scanner) : Option (Char × Scanner) :=
  scanner.source[scanner.current]?.map fun character =>
    (character, { scanner with current := scanner.current + 1 })

/-- The characters from one place up to another, which fails unless both are places of
the source in this order. -/
def cut? (scanner : Scanner) (first last : Nat) : Option Text :=
  if first ≤ last ∧ last ≤ scanner.source.size then
    some (scanner.source.extract first last).toList
  else none

/-- Take the next character if it is `expected`, and tell whether it was. -/
def accept? (scanner : Scanner) (expected : Char) : Option (Bool × Scanner) :=
  if scanner.peek ≠ expected ∨ scanner.atEnd = true then some (false, scanner)
  else scanner.take?.map fun taken => (true, taken.2)

/-- Finish a segment with a token. -/
def token? (scanner : Scanner) (kind : Kind) (literal : Literal) : Option Stage := do
  let lexeme ← scanner.cut? scanner.start scanner.current
  some ⟨.segments, { scanner with
    events := scanner.events.push (.token ⟨kind, lexeme, literal, scanner.startLine⟩) }⟩

def symbol? (scanner : Scanner) (mark : Symbol) : Option Stage :=
  scanner.token? (.symbol mark) .absent

def operator? (scanner : Scanner) (alone extended : Symbol) : Option Stage := do
  let matched ← scanner.accept? '='
  matched.2.symbol? (if matched.1 then extended else alone)

def slash? (scanner : Scanner) : Option Stage := do
  let matched ← scanner.accept? '/'
  if matched.1 then some ⟨.comment, matched.2⟩ else matched.2.symbol? .slash

def number? (scanner : Scanner) : Option Stage := do
  let lexeme ← scanner.cut? scanner.start scanner.current
  match Numeral.ofText? lexeme with
  | some numeral => scanner.token? .number (.number numeral.nearest)
  | none =>
      some ⟨.segments, scanner.report scanner.startLine (.malformedNumber lexeme)⟩

def word? (scanner : Scanner) : Option Stage := do
  let lexeme ← scanner.cut? scanner.start scanner.current
  scanner.token? (Kind.ofWord lexeme) .absent

/-- Go on behind the first character of a segment, just taken. -/
def goOn? (scanner : Scanner) (first : Char) : Option Stage :=
  match first with
  | '(' => scanner.symbol? .leftParen
  | ')' => scanner.symbol? .rightParen
  | '{' => scanner.symbol? .leftBrace
  | '}' => scanner.symbol? .rightBrace
  | ',' => scanner.symbol? .comma
  | '.' => scanner.symbol? .dot
  | '-' => scanner.symbol? .minus
  | '+' => scanner.symbol? .plus
  | ';' => scanner.symbol? .semicolon
  | '*' => scanner.symbol? .star
  | '!' => scanner.operator? .bang .bangEqual
  | '=' => scanner.operator? .equal .equalEqual
  | '<' => scanner.operator? .less .lessEqual
  | '>' => scanner.operator? .greater .greaterEqual
  | '/' => scanner.slash?
  | ' ' => some ⟨.segments, scanner⟩
  | '\r' => some ⟨.segments, scanner⟩
  | '\t' => some ⟨.segments, scanner⟩
  | '\n' => some ⟨.segments, { scanner with line := scanner.line + 1 }⟩
  | '"' => some ⟨.string, scanner⟩
  | _ =>
      if Character.isDigit first then some ⟨.whole, scanner⟩
      else if Character.isLetter first then some ⟨.word, scanner⟩
      else some ⟨.segments, scanner.report scanner.line (.unexpectedCharacter first)⟩

end Scanner

/-! ## Turns -/

namespace Loop

/-- Whether a loop makes another turn. -/
def continues : Loop → Scanner → Bool
  | segments, scanner => !scanner.atEnd
  | comment, scanner => scanner.peek != '\n' && !scanner.atEnd
  | string, scanner => scanner.peek != '"' && !scanner.atEnd
  | whole, scanner => Character.isDigit scanner.peek
  | fraction, scanner => Character.isDigit scanner.peek
  | word, scanner => Character.isWordCharacter scanner.peek

/-- The body of a loop, which takes a character first of all. -/
def body? : Loop → Scanner → Option Stage
  | segments, scanner => do
      let taken ← scanner.beginSegment.take?
      taken.2.goOn? taken.1
  | string, scanner => do
      let taken ← scanner.countLine.take?
      some ⟨string, taken.2⟩
  | loop, scanner => do
      let taken ← scanner.take?
      some ⟨loop, taken.2⟩

/-- What follows a loop. -/
def exit? : Loop → Scanner → Option Stage
  | segments, scanner => some ⟨segments, scanner⟩
  | comment, scanner => some ⟨segments, scanner⟩
  | string, scanner =>
      if scanner.atEnd = true then
        some ⟨segments, scanner.report scanner.startLine .unterminatedString⟩
      else do
        let closed ← scanner.take?
        let body ← closed.2.cut? (closed.2.start + 1) (closed.2.current - 1)
        closed.2.token? .string (.text body)
  | whole, scanner =>
      if scanner.peek = '.' ∧ Character.isDigit scanner.peekNext = true then do
        let taken ← scanner.take?
        some ⟨fraction, taken.2⟩
      else scanner.number?
  | fraction, scanner => scanner.number?
  | word, scanner => scanner.word?

end Loop

namespace Stage

/-- One turn.  At the end of the source the loop over the segments is left for good. -/
def turn? (stage : Stage) : Option Stage :=
  if stage.loop.continues stage.scanner then stage.loop.body? stage.scanner
  else stage.loop.exit? stage.scanner

/-- So many turns, one after the other. -/
def turns? : Nat → Stage → Option Stage
  | 0, stage => some stage
  | count + 1, stage => stage.turn?.bind (turns? count)

/-- The stages that a scan of `source` goes through. -/
inductive Visited (source : Text) : Stage → Prop where
  | initial : Visited source ⟨.segments, Scanner.ofText source⟩
  | turn {stage next : Stage} :
      Visited source stage → stage.turn? = some next → Visited source next

end Stage

/-! ## Accesses in range -/

namespace Scanner

/-- Whether the lexeme of a scanner is a stretch of its source. -/
def InRange (scanner : Scanner) : Prop :=
  scanner.start ≤ scanner.current ∧ scanner.current ≤ scanner.source.size

section Accesses

variable {scanner : Scanner}

theorem take?_of_inside (inside : scanner.atEnd = false) :
    scanner.take? = some (scanner.advance inside) := by
  have bound := atEnd_eq_false_iff.mp inside
  rw [take?, Array.getElem?_eq_getElem bound]
  rfl

theorem fst_advance (inside : scanner.atEnd = false) :
    (scanner.advance inside).1 = scanner.peek := by
  simp [advance, peek, peekAt, atEnd_eq_false_iff.mp inside]

/-- Nothing but the end of the source makes it fail to take a character. -/
theorem take?_eq_none_iff :
    scanner.take? = none ↔ scanner.source.size ≤ scanner.current := by
  rw [take?, Option.map_eq_none_iff, Array.getElem?_eq_none_iff]

/-- Nothing but places out of order or out of the source makes it fail to cut. -/
theorem cut?_eq_none_iff {first last : Nat} :
    scanner.cut? first last = none ↔ ¬ (first ≤ last ∧ last ≤ scanner.source.size) := by
  rw [cut?, ite_eq_right_iff]
  simp

theorem cut?_of_inRange (inRange : scanner.InRange) :
    scanner.cut? scanner.start scanner.current = some scanner.lexeme :=
  if_pos inRange

theorem InRange.advance (inRange : scanner.InRange) (inside : scanner.atEnd = false) :
    (scanner.advance inside).2.InRange :=
  ⟨Nat.le_succ_of_le inRange.1, atEnd_eq_false_iff.mp inside⟩

theorem accept?_eq (expected : Char) :
    scanner.accept? expected = some (scanner.matchCharacter expected) := by
  unfold accept? matchCharacter
  by_cases found : scanner.peek = expected ∧ scanner.atEnd = false
  · rw [if_neg (by simp [found]), dif_pos found, take?_of_inside found.2, Option.map_some]
  · rw [if_pos, dif_neg found]
    rw [not_and_or, Bool.not_eq_false] at found
    exact found

/-- Either the character is taken, or nothing changes. -/
theorem matchCharacter_cases (scanner : Scanner) (expected : Char) :
    scanner.matchCharacter expected = (false, scanner) ∨
      ∃ inside, scanner.peek = expected ∧
        scanner.matchCharacter expected = (true, (scanner.advance inside).2) := by
  unfold matchCharacter
  by_cases found : scanner.peek = expected ∧ scanner.atEnd = false
  · exact .inr ⟨found.2, found.1, dif_pos found⟩
  · exact .inl (dif_neg found)

theorem InRange.matchCharacter (inRange : scanner.InRange) (expected : Char) :
    (scanner.matchCharacter expected).2.InRange := by
  rcases scanner.matchCharacter_cases expected with kept | ⟨inside, _, taken⟩
  · rw [kept]
    exact inRange
  · rw [taken]
    exact inRange.advance inside

end Accesses

/-! ## Ends of segments -/

/-- Finish a string, at its closing quote or at the end of the source. -/
def closeString (scanner : Scanner) : Scanner :=
  if inside : scanner.atEnd = false then
    let closed := (scanner.advance inside).2
    closed.addToken .string (.text closed.innerLexeme)
  else scanner.report scanner.startLine .unterminatedString

/-- Finish a number. -/
def closeNumber (scanner : Scanner) : Scanner :=
  match Numeral.ofText? scanner.lexeme with
  | some numeral => scanner.addToken .number (.number numeral.nearest)
  | none => scanner.report scanner.startLine (.malformedNumber scanner.lexeme)

/-- Finish a word. -/
def closeWord (scanner : Scanner) : Scanner :=
  scanner.addToken (Kind.ofWord scanner.lexeme) .absent

section Ends

variable {scanner : Scanner} (inRange : scanner.InRange)

include inRange

theorem token?_eq (kind : Kind) (literal : Literal) :
    scanner.token? kind literal = some ⟨.segments, scanner.addToken kind literal⟩ := by
  rw [token?, cut?_of_inRange inRange]
  rfl

theorem symbol?_eq (mark : Symbol) :
    scanner.symbol? mark = some ⟨.segments, scanner.addSymbol mark⟩ :=
  token?_eq inRange (.symbol mark) .absent

theorem operator?_eq (alone extended : Symbol) :
    scanner.operator? alone extended =
      some ⟨.segments, scanner.scanOperator alone extended⟩ := by
  have passed := inRange.matchCharacter '='
  rw [operator?, accept?_eq]
  unfold scanOperator
  generalize scanner.matchCharacter '=' = matched at passed ⊢
  rcases matched with ⟨_ | _, after⟩
  · exact symbol?_eq passed alone
  · exact symbol?_eq passed extended

theorem number?_eq :
    scanner.number? = some ⟨.segments, scanner.closeNumber⟩ := by
  rw [number?, cut?_of_inRange inRange]
  unfold closeNumber
  cases read : Numeral.ofText? scanner.lexeme with
  | some numeral =>
      simp only [Option.bind_eq_bind, Option.bind_some, read, token?_eq inRange]
  | none =>
      simp only [Option.bind_eq_bind, Option.bind_some, read]

theorem word?_eq :
    scanner.word? = some ⟨.segments, scanner.closeWord⟩ := by
  rw [word?, cut?_of_inRange inRange]
  exact token?_eq inRange _ _

end Ends

end Scanner

namespace Loop

/-- Finish the segment that a loop has read. -/
def close : Loop → Scanner → Scanner
  | segments, scanner => scanner
  | comment, scanner => scanner
  | string, scanner => scanner.closeString
  | whole, scanner => scanner.closeNumber
  | fraction, scanner => scanner.closeNumber
  | word, scanner => scanner.closeWord

variable {loop : Loop} {scanner : Scanner}

/-- No loop goes on at the end of the source.  Two of them look for the end, and the
others stop at the NUL that is seen there. -/
theorem inside_of_continues (more : loop.continues scanner = true) :
    scanner.atEnd = false := by
  cases loop with
  | segments => exact (Bool.not_eq_true' _).mp more
  | comment => exact (Bool.not_eq_true' _).mp (Bool.and_eq_true_iff.mp more).2
  | string => exact (Bool.not_eq_true' _).mp (Bool.and_eq_true_iff.mp more).2
  | whole => exact Scanner.atEnd_eq_false_of_peek (Scanner.ne_nul_of_isDigit more)
  | fraction => exact Scanner.atEnd_eq_false_of_peek (Scanner.ne_nul_of_isDigit more)
  | word => exact Scanner.atEnd_eq_false_of_peek (Scanner.ne_nul_of_isWordCharacter more)

/-- Behind its opening quote a string can be cut out, also where it is empty. -/
theorem exit?_string (inRange : scanner.InRange) (begun : scanner.start < scanner.current) :
    string.exit? scanner = some ⟨.segments, scanner.closeString⟩ := by
  unfold exit? Scanner.closeString
  by_cases inside : scanner.atEnd = false
  · have closed := inRange.advance inside
    have body : (scanner.advance inside).2.cut? ((scanner.advance inside).2.start + 1)
        ((scanner.advance inside).2.current - 1) =
          some (scanner.advance inside).2.innerLexeme :=
      if_pos ⟨begun, inRange.2⟩
    dsimp only
    rw [if_neg (by simp [inside]), dif_pos inside, Scanner.take?_of_inside inside]
    simp only [Option.bind_eq_bind, Option.bind_some, body, Scanner.token?_eq closed]
  · have ended : scanner.atEnd = true := by simpa using inside
    dsimp only
    rw [if_pos ended, dif_neg inside]

end Loop

/-! ## What the scanner comes to -/

/-- The scanner behind the segment that a stage is in. -/
def Stage.outcome : Stage → Scanner
  | ⟨.segments, scanner⟩ => scanner
  | ⟨.comment, scanner⟩ => scanner.skipComment
  | ⟨.string, scanner⟩ => scanner.scanString
  | ⟨.whole, scanner⟩ => scanner.scanNumber
  | ⟨.fraction, scanner⟩ => scanner.skipDigits.closeNumber
  | ⟨.word, scanner⟩ => scanner.scanWord

namespace Scanner

theorem advanceWhile_of_continues
    {continues : Scanner → Bool}
    {bounded : ∀ scanner, continues scanner = true → scanner.atEnd = false}
    {scanner : Scanner} (more : continues scanner = true) (inside : scanner.atEnd = false) :
    (scanner.advance inside).2.advanceWhile continues bounded =
      scanner.advanceWhile continues bounded := by
  rw [advanceWhile.eq_def continues bounded scanner, dif_pos more]

theorem advanceWhile_of_stops
    {continues : Scanner → Bool}
    {bounded : ∀ scanner, continues scanner = true → scanner.atEnd = false}
    {scanner : Scanner} (stops : continues scanner = false) :
    scanner.advanceWhile continues bounded = scanner := by
  rw [advanceWhile, dif_neg (by rw [stops]; exact Bool.false_ne_true)]

end Scanner

/-! ## Turns of the loops inside a segment -/

namespace Loop

/-- The scanner as a loop takes a character.  In a string a line is counted before. -/
def counted : Loop → Scanner → Scanner
  | string, scanner => scanner.countLine
  | _, scanner => scanner

/-- Whether a loop stands in front of the fraction of a number. -/
def SeesFraction (loop : Loop) (scanner : Scanner) : Prop :=
  loop = whole ∧ scanner.peek = '.' ∧ Character.isDigit scanner.peekNext = true

variable {loop : Loop} {scanner : Scanner}

theorem atEnd_counted (loop : Loop) (scanner : Scanner) :
    (loop.counted scanner).atEnd = scanner.atEnd := by
  cases loop with
  | string => exact scanner.atEnd_countLine
  | _ => rfl

theorem current_counted (loop : Loop) (scanner : Scanner) :
    (loop.counted scanner).current = scanner.current := by
  cases loop with
  | string => exact scanner.current_countLine
  | _ => rfl

theorem start_counted (loop : Loop) (scanner : Scanner) :
    (loop.counted scanner).start = scanner.start := by
  cases loop with
  | string =>
      unfold counted Scanner.countLine
      dsimp only
      split <;> rfl
  | _ => rfl

theorem body?_eq (inner : loop ≠ segments) (inside : (loop.counted scanner).atEnd = false) :
    loop.body? scanner = some ⟨loop, ((loop.counted scanner).advance inside).2⟩ := by
  have taken := Scanner.take?_of_inside inside
  cases loop with
  | segments => exact absurd rfl inner
  | _ => exact congrArg (Option.bind · _) taken

/-- Another turn leads to the same end of the segment. -/
theorem outcome_body
    (inner : loop ≠ segments) (more : loop.continues scanner = true)
    (inside : (loop.counted scanner).atEnd = false) :
    Stage.outcome ⟨loop, ((loop.counted scanner).advance inside).2⟩ =
      Stage.outcome ⟨loop, scanner⟩ := by
  cases loop with
  | segments => exact absurd rfl inner
  | comment => exact Scanner.advanceWhile_of_continues more inside
  | string =>
      have goesOn : scanner.peek ≠ '"' ∧ scanner.atEnd = false := by
        simpa [continues] using more
      have same : ((string.counted scanner).advance inside).2.advanceToQuote =
          scanner.advanceToQuote := by
        rw [Scanner.advanceToQuote.eq_def scanner, dif_pos goesOn]
        rfl
      exact congrArg Scanner.closeString same
  | whole =>
      exact congrArg (fun passed => passed.skipFraction.closeNumber)
        (Scanner.advanceWhile_of_continues more inside)
  | fraction =>
      exact congrArg Scanner.closeNumber (Scanner.advanceWhile_of_continues more inside)
  | word =>
      exact congrArg Scanner.closeWord (Scanner.advanceWhile_of_continues more inside)

theorem seesFraction_whole_iff :
    whole.SeesFraction scanner ↔
      scanner.peek = '.' ∧ Character.isDigit scanner.peekNext = true :=
  ⟨And.right, And.intro rfl⟩

theorem exit?_eq
    (inRange : scanner.InRange) (begun : loop ≠ segments → scanner.start < scanner.current)
    (alone : ¬ loop.SeesFraction scanner) :
    loop.exit? scanner = some ⟨.segments, loop.close scanner⟩ := by
  cases loop with
  | segments => rfl
  | comment => rfl
  | string => exact exit?_string inRange (begun (by decide))
  | whole =>
      unfold exit?
      dsimp only
      rw [if_neg (seesFraction_whole_iff.not.mp alone)]
      exact Scanner.number?_eq inRange
  | fraction => exact Scanner.number?_eq inRange
  | word => exact Scanner.word?_eq inRange

/-- Where a loop stops, its segment is at its end. -/
theorem outcome_exit
    (stops : loop.continues scanner = false) (alone : ¬ loop.SeesFraction scanner) :
    Stage.outcome ⟨loop, scanner⟩ = loop.close scanner := by
  cases loop with
  | segments => rfl
  | comment => exact Scanner.advanceWhile_of_stops stops
  | string =>
      have quoted : ¬ (scanner.peek ≠ '"' ∧ scanner.atEnd = false) := by
        simpa [continues] using stops
      have same : scanner.advanceToQuote = scanner := by
        rw [Scanner.advanceToQuote, dif_neg quoted]
      exact congrArg Scanner.closeString same
  | whole =>
      have digits : scanner.skipDigits = scanner := Scanner.advanceWhile_of_stops stops
      have same : scanner.skipDigits.skipFraction = scanner := by
        rw [digits, Scanner.skipFraction, dif_neg (seesFraction_whole_iff.not.mp alone)]
      exact congrArg Scanner.closeNumber same
  | fraction => exact congrArg Scanner.closeNumber (Scanner.advanceWhile_of_stops stops)
  | word => exact congrArg Scanner.closeWord (Scanner.advanceWhile_of_stops stops)

theorem SeesFraction.inside (sees : loop.SeesFraction scanner) :
    scanner.atEnd = false :=
  Scanner.atEnd_eq_false_of_peek (by rw [sees.2.1]; decide)

/-- At a point with a digit behind it the number goes on with its fraction. -/
theorem exit?_point
    (sees : loop.SeesFraction scanner) (inside : scanner.atEnd = false) :
    loop.exit? scanner = some ⟨fraction, (scanner.advance inside).2⟩ := by
  obtain ⟨rfl, pointed⟩ := sees
  unfold exit?
  dsimp only
  rw [if_pos pointed, Scanner.take?_of_inside inside]
  rfl

theorem outcome_point
    (sees : loop.SeesFraction scanner) (stops : loop.continues scanner = false)
    (inside : scanner.atEnd = false) :
    Stage.outcome ⟨fraction, (scanner.advance inside).2⟩ =
      Stage.outcome ⟨loop, scanner⟩ := by
  obtain ⟨rfl, pointed⟩ := sees
  have digits : scanner.skipDigits = scanner := Scanner.advanceWhile_of_stops stops
  have same : scanner.skipDigits.skipFraction = (scanner.advance inside).2.skipDigits := by
    rw [digits, Scanner.skipFraction, dif_pos pointed]
  exact (congrArg Scanner.closeNumber same).symm

end Loop

end LoxLexer
