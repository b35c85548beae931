import LoxLexer.Proofs.Row
import LoxLexer.Scanner

/-!
# The cursor and the segments

The scanner moves a cursor character by character; `segments` divides the text
as a whole.  Each turn of the scanner's main loop passes exactly the segment that
`Segment.next` reads at the cursor, which carries over to whole scans.
-/

namespace LoxLexer
namespace Scanner

/-! ## What the cursor sees -/

/-- The characters that have not been taken. -/
def remaining (scanner : Scanner) : Text :=
  scanner.source.toList.drop scanner.current

theorem atEnd_iff {scanner : Scanner} :
    scanner.atEnd = true ↔ scanner.remaining = [] := by
  simp [atEnd, remaining]

theorem atEnd_of_remaining
    {scanner : Scanner} {first : Char} {rest : Text}
    (sees : scanner.remaining = first :: rest) :
    scanner.atEnd = false := by
  rw [Bool.eq_false_iff, Ne, atEnd_iff, sees]
  exact List.cons_ne_nil first rest

theorem peekAt_eq (scanner : Scanner) (offset : Nat) :
    scanner.peekAt offset = scanner.remaining.getD offset '\x00' := by
  simp [peekAt, remaining, List.getD_eq_getElem?_getD, Array.getD_eq_getD_getElem?]

theorem head_of_remaining
    {scanner : Scanner} {first : Char} {rest : Text}
    (sees : scanner.remaining = first :: rest) :
    scanner.peek = first := by
  rw [peek, peekAt_eq, sees]
  rfl

theorem peek_of_atEnd
    {scanner : Scanner} (ended : scanner.remaining = []) :
    scanner.peek = '\x00' := by
  rw [peek, peekAt_eq, ended]
  rfl

/-- The character that is taken is the first of those that remain. -/
theorem advance_of_remaining
    {scanner : Scanner} {first : Char} {rest : Text}
    (sees : scanner.remaining = first :: rest)
    (inside : scanner.atEnd = false) :
    scanner.advance inside =
      (first, { scanner with current := scanner.current + 1 }) := by
  have bound := atEnd_eq_false_iff.mp inside
  have taken : scanner.source[scanner.current] = first := by
    have dropped : scanner.source.toList.drop scanner.current = first :: rest := sees
    rw [List.drop_eq_getElem_cons (by simpa using bound)] at dropped
    simpa using (List.cons.inj dropped).1
  simp [advance, taken]

theorem remaining_advance
    {scanner : Scanner} {first : Char} {rest : Text}
    (sees : scanner.remaining = first :: rest)
    (inside : scanner.atEnd = false) :
    (scanner.advance inside).2.remaining = rest := by
  rw [advance_of_remaining sees]
  have dropped := congrArg List.tail sees
  simpa [remaining] using dropped

/-! ## The loops -/

/-- A loop that goes on while the next character is of a class takes the
characters of that class. -/
theorem advanceWhile_eq
    {continues : Scanner → Bool}
    {bounded : ∀ scanner, continues scanner = true → scanner.atEnd = false}
    {member : Char → Bool}
    (agrees : ∀ cursor : Scanner,
      continues cursor = cursor.remaining.head?.any member)
    (scanner : Scanner) :
    scanner.advanceWhile continues bounded =
      { scanner with
        current := scanner.current +
          (scanner.remaining.takeWhile member).length } := by
  fun_induction advanceWhile continues bounded scanner with
  | case1 scanner more induction =>
      cases sees : scanner.remaining with
      | nil =>
          rw [agrees, sees] at more
          cases more
      | cons first rest =>
          rw [agrees, sees] at more
          have isMember : member first = true := more
          rw [induction, remaining_advance sees, advance_of_remaining sees]
          simp only [isMember, List.takeWhile_cons_of_pos, List.length_cons]
          congr 1
          omega
  | case2 scanner stopped =>
      cases sees : scanner.remaining with
      | nil =>
          simp
      | cons first rest =>
          rw [agrees, sees] at stopped
          have notMember : ¬ member first = true := stopped
          simp [notMember]

@[simp]
theorem remaining_countLine (scanner : Scanner) :
    scanner.countLine.remaining = scanner.remaining := by
  simp [remaining]

theorem countLine_of_remaining
    {scanner : Scanner} {first : Char} {rest : Text}
    (sees : scanner.remaining = first :: rest) :
    scanner.countLine =
      { scanner with
        line := scanner.line + [first].countP Character.isLineFeed } := by
  unfold countLine
  rw [head_of_remaining sees]
  by_cases feed : first = '\n'
  · simp [feed, Character.isLineFeed]
  · simp [feed, Character.isLineFeed]

/-- The characters in front of the next quote. -/
def unquoted (rest : Text) : Text :=
  rest.takeWhile fun character => !Character.isQuote character

/-- The loop of a string takes the characters in front of the next quote and
counts the lines that end among them. -/
theorem advanceToQuote_eq (scanner : Scanner) :
    scanner.advanceToQuote =
      { scanner with
        current := scanner.current + (unquoted scanner.remaining).length
        line := scanner.line +
          (unquoted scanner.remaining).countP Character.isLineFeed } := by
  fun_induction advanceToQuote scanner with
  | case1 scanner more induction =>
      cases sees : scanner.remaining with
      | nil =>
          exact absurd (atEnd_iff.mpr sees) (by simp [more.2])
      | cons first rest =>
          have counted : scanner.countLine.remaining = first :: rest := by
            rw [remaining_countLine, sees]
          have notQuote : Character.isQuote first = false := by
            have different := more.1
            rw [head_of_remaining sees] at different
            simpa [Character.isQuote] using different
          rw [induction, remaining_advance counted, advance_of_remaining counted,
            countLine_of_remaining sees]
          simp only [unquoted, notQuote, Bool.not_false, List.takeWhile_cons_of_pos,
            List.length_cons]
          congr 1
          · omega
          · rw [List.countP_cons, List.countP_cons, List.countP_nil]
            omega
  | case2 scanner stopped =>
      cases sees : scanner.remaining with
      | nil =>
          simp [unquoted]
      | cons first rest =>
          have quote : first = '"' := by
            apply Decidable.byContradiction
            intro different
            apply stopped
            rw [head_of_remaining sees]
            exact ⟨different, atEnd_of_remaining sees⟩
          simp [unquoted, quote, Character.isQuote]

/-! ## Passing a segment -/

/-- The scanner inside the segment that begins where `origin` stands: so many
characters and line ends further on. -/
def within (origin : Scanner) (characters lines : Nat) : Scanner where
  source := origin.source
  start := origin.current
  current := origin.current + characters
  line := origin.line + lines
  startLine := origin.line
  events := origin.events

/-- The scanner behind the segment that begins where `origin` stands. -/
def pass (origin : Scanner) (segment : Segment) : Scanner :=
  { origin.within segment.text.length segment.lineFeeds with
    events := origin.events ++ (segment.event? origin.line).toArray }

theorem remaining_within
    {origin : Scanner} {text after : Text} (lines : Nat)
    (sees : origin.remaining = text ++ after) :
    (origin.within text.length lines).remaining = after := by
  have dropped : origin.source.toList.drop origin.current = text ++ after := sees
  rw [remaining, within, ← List.drop_drop, dropped, List.drop_left]

/-- The cursor behind the first character of a segment. -/
theorem remaining_within_first
    {origin : Scanner} {first : Char} {rest : Text}
    (sees : origin.remaining = first :: rest) :
    (origin.within 1 0).remaining = rest := by
  have split : origin.remaining = [first] ++ rest := sees
  exact remaining_within 0 split

theorem remaining_pass
    {origin : Scanner} {segment : Segment} {after : Text}
    (sees : origin.remaining = segment.text ++ after) :
    (origin.pass segment).remaining = after :=
  remaining_within segment.lineFeeds sees

theorem lexeme_within
    {origin : Scanner} {text after : Text} (lines : Nat)
    (sees : origin.remaining = text ++ after) :
    (origin.within text.length lines).lexeme = text := by
  have dropped : origin.source.toList.drop origin.current = text ++ after := sees
  simp [lexeme, within, dropped]

theorem innerLexeme_within
    {origin : Scanner} {opening closing : Char} {body after : Text} (lines : Nat)
    (sees : origin.remaining = opening :: (body ++ closing :: after)) :
    (origin.within (body.length + 2) lines).innerLexeme = body := by
  have dropped : origin.source.toList.drop (origin.current + 1) =
      body ++ closing :: after := by
    have next := congrArg List.tail sees
    simpa [remaining] using next
  have count : origin.current + (body.length + 1) - (origin.current + 1) =
      body.length := by omega
  simp [innerLexeme, within, dropped, count]

theorem addToken_within
    {origin : Scanner} (segment : Segment) {after : Text}
    {kind : Kind} {literal : Literal}
    (sees : origin.remaining = segment.text ++ after)
    (event : segment.event? origin.line =
      some (.token ⟨kind, segment.text, literal, origin.line⟩)) :
    (origin.within segment.text.length segment.lineFeeds).addToken kind literal =
      origin.pass segment := by
  rw [addToken, lexeme_within _ sees]
  simp [pass, event, within]

theorem matchCharacter_of_remaining
    {scanner : Scanner} {expected : Char} {rest : Text}
    (sees : scanner.remaining = expected :: rest) :
    scanner.matchCharacter expected =
      (true, { scanner with current := scanner.current + 1 }) := by
  have found := And.intro (head_of_remaining sees) (atEnd_of_remaining sees)
  rw [matchCharacter, dif_pos found, advance_of_remaining sees]

theorem matchCharacter_of_head_ne
    {scanner : Scanner} {expected : Char}
    (different : scanner.remaining.head? ≠ some expected) :
    scanner.matchCharacter expected = (false, scanner) := by
  rw [matchCharacter, dif_neg]
  rintro ⟨seen, inside⟩
  cases sees : scanner.remaining with
  | nil =>
      exact absurd (atEnd_iff.mpr sees) (by simp [inside])
  | cons first rest =>
      rw [head_of_remaining sees] at seen
      exact different (by rw [sees, seen]; rfl)

/-! ## One segment, class by class -/

section Classes

variable {origin : Scanner} {first : Char} {rest : Text}

theorem addSymbol_within
    {mark : Symbol} {after : Text}
    (sees : origin.remaining = mark.spelling ++ after) :
    (origin.within mark.spelling.length 0).addSymbol mark =
      origin.pass (.symbol mark) := by
  rw [addSymbol, ← Segment.lineFeeds_symbol mark]
  exact addToken_within (.symbol mark) sees rfl

theorem addSymbol_eq_pass
    {mark : Symbol}
    (sees : origin.remaining = first :: rest)
    (spelled : mark.spelling = [first])
    (alone : (Segment.symbol mark).EndsBefore rest) :
    (origin.within 1 0).addSymbol mark =
      origin.pass (Segment.next first rest).1 := by
  have joined : mark.spelling ++ rest = first :: rest := by rw [spelled]; rfl
  have passed := addSymbol_within (sees.trans joined.symm)
  rw [Segment.next_of_symbol alone joined, ← passed, spelled]
  rfl

theorem scanOperator_eq_pass
    {alone extended : Symbol}
    (sees : origin.remaining = first :: rest)
    (spelled : alone.spelling = [first])
    (extension : alone.extension? = some '=')
    (spelledLonger : extended.spelling = [first, '='])
    (noExtension : extended.extension? = none) :
    (origin.within 1 0).scanOperator alone extended =
      origin.pass (Segment.next first rest).1 := by
  have behind := remaining_within_first sees
  unfold scanOperator
  by_cases equals : rest.head? = some '='
  · obtain ⟨tail, rfl⟩ := List.head?_eq_some_iff.mp equals
    have joined : extended.spelling ++ tail = first :: '=' :: tail := by
      rw [spelledLonger]
      rfl
    have fits : (Segment.symbol extended).EndsBefore tail := by
      intro character extends_
      rw [noExtension] at extends_
      cases extends_
    have passed := addSymbol_within (sees.trans joined.symm)
    rw [matchCharacter_of_remaining behind, Segment.next_of_symbol fits joined,
      ← passed, spelledLonger]
    rfl
  · have fits : (Segment.symbol alone).EndsBefore rest := by
      intro character extends_
      rw [extension] at extends_
      cases extends_
      exact equals
    rw [matchCharacter_of_head_ne (by rwa [behind])]
    exact addSymbol_eq_pass sees spelled fits

/-- Where no event comes of a segment, passing it only moves the cursor. -/
theorem pass_of_event?_eq_none
    {segment : Segment} (silent : segment.event? origin.line = none) :
    origin.pass segment =
      origin.within segment.text.length segment.lineFeeds := by
  simp [pass, silent, within]

theorem report_within
    (segment : Segment) {fault : Fault}
    (event : segment.event? origin.line = some (.fault ⟨origin.line, fault⟩)) :
    (origin.within segment.text.length segment.lineFeeds).report
        origin.line fault =
      origin.pass segment := by
  simp [report, pass, event, within]

theorem skipComment_eq_pass
    (sees : origin.remaining = '/' :: '/' :: rest) :
    (origin.within 2 0).skipComment = origin.pass (Segment.readComment rest).1 := by
  have split : origin.remaining = ['/', '/'] ++ rest := sees
  have behind : (origin.within 2 0).remaining = rest := remaining_within 0 split
  have agrees : ∀ cursor : Scanner,
      (cursor.peek != '\n' && !cursor.atEnd) =
        cursor.remaining.head?.any fun character => !Character.isLineFeed character := by
    intro cursor
    cases sees : cursor.remaining with
    | nil =>
        simp [atEnd_iff.mpr sees]
    | cons next others =>
        simp [head_of_remaining sees, atEnd_of_remaining sees, Character.isLineFeed,
          bne]
  have unbroken : (Segment.readComment rest).1.lineFeeds = 0 :=
    Segment.lineFeeds_comment (Segment.fits_readComment rest).1
  rw [pass_of_event?_eq_none rfl, unbroken, skipComment, advanceWhile_eq agrees, behind]
  simp [within, Segment.readComment, Segment.text]
  omega

theorem scanSlash_eq_pass
    (sees : origin.remaining = '/' :: rest) :
    (origin.within 1 0).scanSlash = origin.pass (Segment.next '/' rest).1 := by
  have behind := remaining_within_first sees
  unfold scanSlash
  by_cases slashes : rest.head? = some '/'
  · obtain ⟨tail, rfl⟩ := List.head?_eq_some_iff.mp slashes
    rw [matchCharacter_of_remaining behind]
    exact skipComment_eq_pass sees
  · have fits : (Segment.symbol .slash).EndsBefore rest := by
      rintro character ⟨⟩
      exact slashes
    rw [matchCharacter_of_head_ne (by rwa [behind])]
    exact addSymbol_eq_pass sees rfl fits

theorem scanString_eq_pass
    (sees : origin.remaining = '"' :: rest) :
    (origin.within 1 0).scanString = origin.pass (Segment.readString rest).1 := by
  have behind := remaining_within_first sees
  have passed : (origin.within 1 0).advanceToQuote =
      origin.within ('"' :: unquoted rest).length
        ((unquoted rest).countP Character.isLineFeed) := by
    rw [advanceToQuote_eq, behind]
    simp [within, Nat.add_assoc, Nat.add_comm]
  have split : unquoted rest ++ (rest.dropWhile fun character =>
      !Character.isQuote character) = rest := List.takeWhile_append_dropWhile
  have left := remaining_within ((unquoted rest).countP Character.isLineFeed)
    (show origin.remaining = ('"' :: unquoted rest) ++ _ by
      rw [List.cons_append, split, sees])
  rw [← passed] at left
  unfold scanString Segment.readString
  dsimp only
  cases ended : rest.dropWhile fun character => !Character.isQuote character with
  | nil =>
      rw [ended] at left split
      have whole : unquoted rest = rest := by simpa using split
      rw [dif_neg (by simp [atEnd_iff.mpr left]), passed, whole,
        ← Segment.lineFeeds_openString]
      exact report_within (.openString rest) rfl
  | cons quote after =>
      rw [ended] at left split
      have closing : quote = '"' := by
        have stopped := head_dropWhile (fun character => !Character.isQuote character)
          rest quote (by rw [ended]; rfl)
        simpa [Character.isQuote] using stopped
      have whole : origin.remaining = (Segment.string (unquoted rest)).text ++ after := by
        rw [closing] at split
        simpa [Segment.text, sees] using split.symm
      have closed : ((origin.within 1 0).advanceToQuote.advance
          (atEnd_of_remaining left)).2 =
            origin.within (Segment.string (unquoted rest)).text.length
              (Segment.string (unquoted rest)).lineFeeds := by
        rw [advance_of_remaining left, passed, Segment.lineFeeds_string]
        simp [within, Segment.text, Nat.add_assoc]
      have body : (origin.within (Segment.string (unquoted rest)).text.length
          (Segment.string (unquoted rest)).lineFeeds).innerLexeme = unquoted rest := by
        have between : origin.remaining = '"' :: (unquoted rest ++ '"' :: after) := by
          simpa [Segment.text] using whole
        simpa [Segment.text] using innerLexeme_within _ between
      rw [dif_pos (atEnd_of_remaining left), closed, body]
      exact addToken_within (.string (unquoted rest)) whole rfl

/-- The loops over digits and words stop at the end by themselves, as NUL is in
neither class. -/
theorem member_peek_eq
    {member : Char → Bool} (sentinel : member '\x00' = false) (cursor : Scanner) :
    member cursor.peek = cursor.remaining.head?.any member := by
  cases sees : cursor.remaining with
  | nil =>
      rw [peek_of_atEnd sees]
      exact sentinel
  | cons next others =>
      rw [head_of_remaining sees]
      rfl

theorem scanWord_eq_pass
    (sees : origin.remaining = first :: rest)
    (letter : Character.isLetter first = true) :
    (origin.within 1 0).scanWord = origin.pass (Segment.readWord first rest).1 := by
  have behind := remaining_within_first sees
  have unbroken : (Segment.readWord first rest).1.lineFeeds = 0 :=
    Segment.lineFeeds_word (Segment.fits_readWord rest letter).1
  have passed : (origin.within 1 0).skipWord =
      origin.within (Segment.readWord first rest).1.text.length
        (Segment.readWord first rest).1.lineFeeds := by
    rw [unbroken, skipWord, advanceWhile_eq (member_peek_eq rfl), behind]
    simp only [within, Segment.readWord, Segment.text, List.length_cons]
    congr 1
    omega
  have whole := sees.trans (Segment.text_append_readWord first rest).symm
  unfold scanWord
  dsimp only
  rw [passed, lexeme_within _ whole]
  exact addToken_within _ whole rfl

theorem skipDigits_eq (scanner : Scanner) :
    scanner.skipDigits =
      { scanner with
        current := scanner.current +
          (scanner.remaining.takeWhile Character.isDigit).length } :=
  advanceWhile_eq (member_peek_eq rfl) scanner

/-- Two characters tell whether a fraction follows. -/
theorem sees_fraction_iff (scanner : Scanner) :
    scanner.peek = '.' ∧ Character.isDigit scanner.peekNext = true ↔
      beginsFraction scanner.remaining = true := by
  rw [peek, peekNext, peekAt_eq, peekAt_eq]
  rcases scanner.remaining with _ | ⟨point, _ | ⟨digit, tail⟩⟩
  · decide
  · have noDigit : Character.isDigit '\x00' = false := by decide
    simp [beginsFraction, noDigit]
  · by_cases isPoint : point = '.'
    · subst point
      simp [beginsFraction]
    · simp [beginsFraction, isPoint]

theorem skipFraction_within {source : Text} (sees : origin.remaining = source) :
    (origin.within (source.takeWhile Character.isDigit).length 0).skipFraction =
      origin.within (Numeral.read source).1.text.length 0 := by
  have split := List.takeWhile_append_dropWhile (p := Character.isDigit) (l := source)
  have left := remaining_within 0 (sees.trans split.symm)
  unfold skipFraction
  cases fraction : beginsFraction (source.dropWhile Character.isDigit) with
  | true =>
      obtain ⟨digit, tail, isDigit, remains, found⟩ :=
        Numeral.read_of_beginsFraction fraction
      rw [← left] at fraction
      rw [remains] at left
      rw [dif_pos ((sees_fraction_iff _).mpr fraction), skipDigits_eq,
        remaining_advance left, advance_of_remaining left, found,
        List.takeWhile_cons_of_pos isDigit]
      simp only [within, Numeral.text, List.length_append, List.length_cons]
      congr 1
      omega
  | false =>
      rw [Numeral.read_of_not_beginsFraction fraction]
      rw [← left] at fraction
      rw [dif_neg (by rw [sees_fraction_iff, fraction]; decide)]
      rfl

theorem scanNumber_eq_pass
    (sees : origin.remaining = first :: rest)
    (digit : Character.isDigit first = true) :
    (origin.within 1 0).scanNumber = origin.pass (Segment.readNumber first rest).1 := by
  have behind := remaining_within_first sees
  have fits := Segment.fits_readNumber rest digit
  have unbroken : (Segment.readNumber first rest).1.lineFeeds = 0 :=
    Segment.lineFeeds_number fits.1
  have digits : (origin.within 1 0).skipDigits =
      origin.within ((first :: rest).takeWhile Character.isDigit).length 0 := by
    rw [skipDigits_eq, behind, List.takeWhile_cons_of_pos digit, List.length_cons]
    simp only [within]
    congr 1
    omega
  have passed : (origin.within 1 0).skipDigits.skipFraction =
      origin.within (Segment.readNumber first rest).1.text.length
        (Segment.readNumber first rest).1.lineFeeds := by
    rw [digits, skipFraction_within sees, unbroken]
    rfl
  have whole := sees.trans (Segment.text_append_readNumber first rest).symm
  unfold scanNumber
  dsimp only
  rw [passed, lexeme_within _ whole]
  have written : Numeral.ofText? (Segment.readNumber first rest).1.text =
      some (Numeral.read (first :: rest)).1 := Numeral.ofText?_text fits.1
  rw [written]
  exact addToken_within _ whole rfl

end Classes

/-! ## Whole scans -/

theorem scanFrom_eq_pass
    {origin : Scanner} {first : Char} {rest : Text}
    (sees : origin.remaining = first :: rest) :
    (origin.within 1 0).scanFrom first = origin.pass (Segment.next first rest).1 := by
  unfold scanFrom
  split
  case h_11 => exact scanOperator_eq_pass sees rfl rfl rfl rfl
  case h_12 => exact scanOperator_eq_pass sees rfl rfl rfl rfl
  case h_13 => exact scanOperator_eq_pass sees rfl rfl rfl rfl
  case h_14 => exact scanOperator_eq_pass sees rfl rfl rfl rfl
  case h_15 => exact scanSlash_eq_pass sees
  case h_16 => rfl
  case h_17 => rfl
  case h_18 => rfl
  case h_19 => rfl
  case h_20 => exact scanString_eq_pass sees
  case h_21 =>
    -- None of the twenty characters above: no blank, no quote, no symbol.
    have blank : Character.isBlank first = false := by
      rw [Bool.eq_false_iff, Ne, Character.isBlank_iff]
      rintro (rfl | rfl | rfl | rfl) <;> contradiction
    have quote : Character.isQuote first = false := by
      rw [Bool.eq_false_iff, Ne, Character.isQuote_iff]
      rintro rfl
      contradiction
    have symbol : ∀ mark : Symbol, mark.spelling.head? ≠ some first := by
      intro mark head
      cases mark <;> cases head <;> contradiction
    split
    · rename_i digit
      rw [scanNumber_eq_pass sees digit]
      simp [Segment.next, blank, quote, digit]
    · rename_i notDigit
      split
      · rename_i letter
        rw [scanWord_eq_pass sees letter]
        simp [Segment.next, blank, quote, notDigit, letter]
      · rename_i notLetter
        have stray : IsStray first :=
          ⟨blank, quote, Bool.eq_false_iff.mpr notDigit,
            Bool.eq_false_iff.mpr notLetter, symbol⟩
        have fits : (Segment.stray first).Fits rest := ⟨stray, trivial⟩
        have read : Segment.next first rest = (.stray first, rest) :=
          Segment.next_eq_of_fits fits rfl
        rw [read, ← report_within (.stray first) rfl, Segment.lineFeeds_stray stray]
        rfl
  all_goals
    exact addSymbol_eq_pass sees rfl (Segment.ends_symbol_of_extension? rfl _)

theorem scanSegment_eq_pass
    {scanner : Scanner} {first : Char} {rest : Text}
    (sees : scanner.remaining = first :: rest)
    (inside : scanner.atEnd = false) :
    scanner.scanSegment inside = scanner.pass (Segment.next first rest).1 := by
  have begun : scanner.beginSegment.remaining = first :: rest := sees
  have taken := advance_of_remaining begun
    (scanner.atEnd_beginSegment.trans inside)
  rw [scanSegment, taken]
  exact scanFrom_eq_pass sees

theorem remaining_scanSegment
    {scanner : Scanner} {first : Char} {rest : Text}
    (sees : scanner.remaining = first :: rest)
    (inside : scanner.atEnd = false) :
    (scanner.scanSegment inside).remaining = (Segment.next first rest).2 := by
  rw [scanSegment_eq_pass sees inside]
  exact remaining_pass (sees.trans (Segment.text_append_next first rest).symm)

/-- A scan that goes on from any point adds the events of the segments that
remain. -/
theorem scanAll_eq (scanner : Scanner) :
    scanner.scanAll.events.toList =
        scanner.events.toList ++
          (Scan.ofSegments scanner.line (segments scanner.remaining)).events ∧
      scanner.scanAll.line =
        (Scan.ofSegments scanner.line (segments scanner.remaining)).lastLine := by
  fun_induction scanAll scanner with
  | case1 scanner inside induction =>
      cases sees : scanner.remaining with
      | nil =>
          exact absurd (atEnd_iff.mpr sees) (by simp [inside])
      | cons first rest =>
          rw [remaining_scanSegment sees, scanSegment_eq_pass sees] at induction
          rw [segments_cons, scanSegment_eq_pass sees]
          obtain ⟨events, line⟩ := induction
          refine ⟨?_, line⟩
          rw [events]
          simp [pass, Scan.ofSegments, within]
  | case2 scanner ended =>
      have nothing : scanner.remaining = [] := by
        rw [← atEnd_iff]
        simpa using ended
      simp [nothing, Scan.ofSegments]

/-! ## The states of the main loop -/

/-- The states in which a scan of `source` begins a segment, and the last one. -/
inductive Reached (source : Text) : Scanner → Prop where
  | initial : Reached source (ofText source)
  | step {scanner : Scanner} (inside : scanner.atEnd = false) :
      Reached source scanner → Reached source (scanner.scanSegment inside)

/-- The faults that have been found so far. -/
def faults (scanner : Scanner) : List LocatedFault :=
  scanner.events.toList.filterMap Event.fault?

/-- What the rest of a scan takes, segment by segment. -/
def pieces (scanner : Scanner) : List Text :=
  if inside : scanner.atEnd = false then
    (scanner.scanSegment inside).lexeme :: (scanner.scanSegment inside).pieces
  else []
termination_by scanner.source.size - scanner.current
decreasing_by
  have before := atEnd_eq_false_iff.mp inside
  have progress := scanner.current_lt_scanSegment inside
  rw [source_scanSegment]
  omega

theorem lexeme_scanSegment
    {scanner : Scanner} {first : Char} {rest : Text}
    (sees : scanner.remaining = first :: rest)
    (inside : scanner.atEnd = false) :
    (scanner.scanSegment inside).lexeme = (Segment.next first rest).1.text := by
  rw [scanSegment_eq_pass sees inside]
  exact lexeme_within (Segment.next first rest).1.lineFeeds
    (sees.trans (Segment.text_append_next first rest).symm)

/-- A scan takes the segments that remain, one after the other. -/
theorem pieces_eq (scanner : Scanner) :
    scanner.pieces = (segments scanner.remaining).map Segment.text := by
  fun_induction pieces scanner with
  | case1 scanner inside induction =>
      cases sees : scanner.remaining with
      | nil =>
          exact absurd (atEnd_iff.mpr sees) (by simp [inside])
      | cons first rest =>
          rw [remaining_scanSegment sees] at induction
          rw [segments_cons, List.map_cons, induction, lexeme_scanSegment sees]
  | case2 scanner ended =>
      have nothing : scanner.remaining = [] := by
        rw [← atEnd_iff]
        simpa using ended
      simp [nothing]

theorem faults_scanSegment
    {scanner : Scanner} {first : Char} {rest : Text}
    (sees : scanner.remaining = first :: rest)
    (inside : scanner.atEnd = false) :
    (scanner.scanSegment inside).faults =
      scanner.faults ++
        (((Segment.next first rest).1.event? scanner.line).bind
          Event.fault?).toList := by
  rw [scanSegment_eq_pass sees inside]
  cases contributes : (Segment.next first rest).1.event? scanner.line with
  | none =>
      simp [faults, pass, contributes]
  | some event =>
      cases event <;> simp [faults, pass, contributes, Event.fault?]

theorem remaining_ofText (source : Text) :
    (ofText source).remaining = source := by
  simp [remaining, ofText]

theorem Reached.remaining_eq
    {source : Text} {scanner : Scanner} (reached : Reached source scanner) :
    scanner.remaining = source.drop scanner.current := by
  have kept : scanner.source = source.toArray := by
    induction reached with
    | initial =>
        rfl
    | step inside _ induction =>
        rw [source_scanSegment, induction]
  rw [remaining, kept]

end Scanner

/-- What the cursor finds is what the segments of the text contribute. -/
theorem scan_eq_ofSegments (source : Text) :
    scan source = Scan.ofSegments 1 (segments source) := by
  obtain ⟨events, line⟩ := Scanner.scanAll_eq (Scanner.ofText source)
  rw [Scanner.remaining_ofText] at events line
  unfold scan
  dsimp only
  rw [events, line]
  rfl

end LoxLexer
