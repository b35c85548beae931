import LoxLexer.Proofs.Cursor
import LoxLexer.Proofs.Wording

/-!
# Nothing is lost

A source text falls into stretches of five classes.  A scan turns each stretch of
the token class into one token, each rejected character and an open string into
one fault, and drops the other stretches.
-/

namespace LoxLexer

/-- The classes of the stretches of a source text. -/
inductive SegmentClass where
  | blank
  | comment
  | token
  | rejected
  | openString
  deriving DecidableEq, Repr

namespace SegmentClass

/-- What a class asks of a stretch and of the text behind it. -/
def Admits : SegmentClass → Text → Text → Prop
  | blank, stretch, _ => IsBlank stretch
  | comment, stretch, rest =>
      IsComment stretch ∧ ∀ character ∈ rest.head?, character = '\n'
  | token, stretch, _ => IsLexeme stretch
  | rejected, stretch, _ =>
      ∃ character, IsStray character ∧ stretch = [character]
  | openString, stretch, rest =>
      (∃ body, '"' ∉ body ∧ stretch = '"' :: body) ∧ rest = []

/-- The fault that a stretch is reported as. -/
def fault? : SegmentClass → Text → Option Fault
  | rejected, [character] => some (.unexpectedCharacter character)
  | openString, _ => some .unterminatedString
  | _, _ => none

/-- The only class that can admit a text, told by the front of the text and by
the quotes in it. -/
def ofText : Text → SegmentClass
  | [] => token
  | first :: rest =>
      if Character.isBlank first then blank
      else if first = '"' then if '"' ∈ rest then token else openString
      else if first = '/' ∧ rest ≠ [] then comment
      else if Character.isDigit first ∨ Character.isLetter first ∨
          (Symbol.ofText? [first]).isSome then token
      else rejected

end SegmentClass

/-! ## Classes exclude each other -/

theorem ofText_of_wordCharacter
    {first : Char} (rest : Text)
    (member : Character.isWordCharacter first = true) :
    SegmentClass.ofText (first :: rest) = .token := by
  have notBlank := Character.isBlank_eq_false_of_isWordCharacter member
  have notQuote : first ≠ '"' := by
    rintro rfl
    exact absurd member (by decide)
  have notSlash : first ≠ '/' := by
    rintro rfl
    exact absurd member (by decide)
  have either : Character.isDigit first = true ∨ Character.isLetter first = true := by
    simpa [Character.isWordCharacter, or_comm] using member
  rcases either with digit | letter
  · simp [SegmentClass.ofText, notBlank, notQuote, notSlash, digit]
  · simp [SegmentClass.ofText, notBlank, notQuote, notSlash, letter]

theorem IsDigits.ofText
    {stretch : Text} (digits : IsDigits stretch) (rest : Text) :
    SegmentClass.ofText (stretch ++ rest) = .token := by
  cases stretch with
  | nil =>
      exact absurd rfl digits.1
  | cons first others =>
      have digit := digits.2 first (List.mem_cons_self ..)
      exact ofText_of_wordCharacter (others ++ rest)
        (Character.isWordCharacter_of_isDigit digit)

theorem IsLexeme.ofText
    {stretch : Text} (lexeme : IsLexeme stretch) :
    SegmentClass.ofText stretch = .token := by
  cases lexeme with
  | symbol mark =>
      cases mark <;> rfl
  | word isWord =>
      cases stretch with
      | nil =>
          exact absurd isWord id
      | cons first rest =>
          exact ofText_of_wordCharacter rest
            (Character.isWordCharacter_of_isLetter isWord.1)
  | number isNumber =>
      rcases isNumber with digits | ⟨whole, fraction, digits, _, rfl⟩
      · simpa using digits.ofText []
      · exact digits.ofText ('.' :: fraction)
  | string isString =>
      obtain ⟨body, _, rfl⟩ := isString
      simp [SegmentClass.ofText, Character.isBlank]

theorem IsStray.ofText
    {character : Char} (stray : IsStray character) :
    SegmentClass.ofText [character] = .rejected := by
  have notQuote : character ≠ '"' := by
    rintro rfl
    exact absurd stray.quote (by decide)
  have noSymbol : Symbol.ofText? [character] = none := by
    rw [Option.eq_none_iff_forall_ne_some]
    intro mark found
    have spelled := Symbol.ofText?_eq_some_iff.mp found
    exact stray.symbol mark (by rw [spelled]; rfl)
  simp [SegmentClass.ofText, stray.blank, notQuote, stray.digit, stray.letter, noSymbol]

theorem SegmentClass.Admits.eq_ofText
    {category : SegmentClass} {stretch rest : Text}
    (admits : category.Admits stretch rest) :
    category = SegmentClass.ofText stretch := by
  cases category with
  | blank =>
      obtain ⟨character, isBlank, rfl⟩ := admits
      simp [SegmentClass.ofText, isBlank]
  | comment =>
      obtain ⟨⟨body, _, rfl⟩, _⟩ := admits
      rfl
  | token =>
      exact (IsLexeme.ofText admits).symm
  | rejected =>
      obtain ⟨character, stray, rfl⟩ := admits
      exact stray.ofText.symm
  | openString =>
      obtain ⟨⟨body, unquoted, rfl⟩, _⟩ := admits
      simp [SegmentClass.ofText, Character.isBlank, unquoted]

/-! ## The class of a segment -/

namespace Segment

def segmentClass : Segment → SegmentClass
  | blank _ => .blank
  | comment _ => .comment
  | symbol _ => .token
  | word _ => .token
  | number _ => .token
  | string _ => .token
  | stray _ => .rejected
  | openString _ => .openString

def lexeme? (segment : Segment) : Option Text :=
  if segment.segmentClass = .token then some segment.text else none

theorem Fits.admits
    {segment : Segment} {rest : Text} (fits : segment.Fits rest) :
    segment.segmentClass.Admits segment.text rest := by
  obtain ⟨formed, ends⟩ := fits
  cases segment with
  | blank character =>
      exact ⟨character, formed, rfl⟩
  | comment body =>
      exact ⟨⟨body, formed, rfl⟩, ends⟩
  | symbol mark =>
      exact IsLexeme.symbol mark
  | word letters =>
      exact IsLexeme.word formed
  | number numeral =>
      exact IsLexeme.number (Numeral.WellFormed.isNumber formed)
  | string body =>
      exact IsLexeme.string ⟨body, formed, rfl⟩
  | stray character =>
      exact ⟨character, formed, rfl⟩
  | openString body =>
      exact ⟨⟨body, formed, rfl⟩, ends⟩

end Segment

/-! ## What a row contributes -/

/-- The stretches of a row of segments, with their classes. -/
def stretches (row : List Segment) : List (SegmentClass × Text) :=
  row.map fun segment => (segment.segmentClass, segment.text)

theorem flatMap_stretches (row : List Segment) :
    (stretches row).flatMap Prod.snd = row.flatMap Segment.text := by
  simp [stretches, List.flatMap_map]

theorem ofWord_ne_endOfInput (letters : Text) :
    Kind.ofWord letters ≠ .endOfInput := by
  unfold Kind.ofWord
  split <;> exact Kind.noConfusion

theorem kind_ne_endOfInput
    {line : Nat} {segment : Segment} {token : Token}
    (found : segment.event? line = some (.token token)) :
    token.kind ≠ .endOfInput := by
  cases segment <;> cases found
  case word letters => exact ofWord_ne_endOfInput letters
  all_goals exact Kind.noConfusion

theorem kind_ne_endOfInput_of_mem
    {line : Nat} {row : List Segment} {token : Token}
    (member : token ∈ (Scan.ofSegments line row).events.filterMap Event.token?) :
    token.kind ≠ .endOfInput := by
  obtain ⟨segment, _, begun, contributes⟩ := exists_segment_of_mem_tokens member
  exact kind_ne_endOfInput contributes

theorem lexemes_of_segments (line : Nat) (row : List Segment) :
    ((Scan.ofSegments line row).events.filterMap Event.token?).map Token.lexeme =
      row.filterMap Segment.lexeme? := by
  have agrees : ∀ line segment,
      (Segment.event? line segment).bind (fun event => event.token?.map Token.lexeme) =
        segment.lexeme? := by
    intro line segment
    cases segment <;> rfl
  rw [List.map_filterMap, filterMap_events_ofSegments agrees]

theorem filterMap_lexeme?_eq (row : List Segment) :
    row.filterMap Segment.lexeme? =
      ((stretches row).filter fun stretch => stretch.1 = .token).map Prod.snd := by
  rw [stretches, List.filter_map, List.map_map, ← List.filterMap_eq_map,
    List.filterMap_filter]
  simp only [Function.comp_apply, decide_eq_true_eq]
  rfl

theorem faults_of_segments (line : Nat) (row : List Segment) :
    ((Scan.ofSegments line row).events.filterMap Event.fault?).map
        LocatedFault.fault =
      (stretches row).filterMap fun stretch => stretch.1.fault? stretch.2 := by
  have agrees : ∀ line segment,
      (Segment.event? line segment).bind
          (fun event => event.fault?.map LocatedFault.fault) =
        segment.segmentClass.fault? segment.text := by
    intro line segment
    cases segment <;> rfl
  rw [List.map_filterMap, filterMap_events_ofSegments agrees, stretches,
    List.filterMap_map]
  rfl

/-- Every source text falls into the non-empty stretches that the scanner takes,
each of exactly one class.  The tokens are the stretches of the token class in their
order, then one token for the end of the input; the faults are the rejected characters and the open
string, and each is told in a sentence of its own. -/
theorem scan_accounts_for_source (source : Text) :
    ∃ pieces : List (SegmentClass × Text),
      pieces.map Prod.snd = (Scanner.ofText source).pieces ∧
      pieces.flatMap Prod.snd = source ∧
      (∀ before piece after, pieces = before ++ piece :: after →
        piece.2 ≠ [] ∧
          ∀ category : SegmentClass,
            category.Admits piece.2 (after.flatMap Prod.snd) ↔
              category = piece.1) ∧
      (∃ found lastLine,
        (scan source).tokens = found ++ [⟨.endOfInput, [], .absent, lastLine⟩] ∧
        (∀ token ∈ found, token.kind ≠ .endOfInput) ∧
        found.map Token.lexeme =
          (pieces.filter fun piece => piece.1 = .token).map Prod.snd) ∧
      (scan source).faults.map LocatedFault.fault =
        (pieces.filterMap fun piece => piece.1.fault? piece.2) ∧
      (scan source).faults.map (fun located => located.fault.message) =
        pieces.filterMap fun piece => (piece.1.fault? piece.2).map Fault.wording := by
  rw [scan_eq_ofSegments]
  refine ⟨stretches (segments source), ?_, ?_, ?_, ?_, faults_of_segments 1 _, ?_⟩
  · rw [Scanner.pieces_eq, Scanner.remaining_ofText, stretches, List.map_map]
    rfl
  · rw [flatMap_stretches, flatMap_text_segments]
  · intro before piece after divided
    obtain ⟨earlier, rest, row, _, divided⟩ := List.map_eq_append_iff.mp divided
    obtain ⟨segment, later, rfl, rfl, rfl⟩ := List.map_eq_cons_iff.mp divided
    have fits := (rowFits_segments source)
    rw [row] at fits
    have here := fits.tail.1
    rw [← flatMap_stretches] at here
    refine ⟨here.1.text_ne_nil, fun category => ⟨fun admits => ?_, ?_⟩⟩
    · rw [admits.eq_ofText, here.admits.eq_ofText]
    · rintro rfl
      exact here.admits
  · refine ⟨_, _, rfl, fun _ => kind_ne_endOfInput_of_mem, ?_⟩
    rw [lexemes_of_segments, filterMap_lexeme?_eq]
  · have sentences : (fun located : LocatedFault => located.fault.message) =
        Fault.wording ∘ LocatedFault.fault := by
      funext located
      exact located.fault.message_eq_wording
    rw [sentences, ← List.map_map]
    exact (congrArg (List.map Fault.wording) (faults_of_segments 1 _)).trans
      List.map_filterMap

end LoxLexer
