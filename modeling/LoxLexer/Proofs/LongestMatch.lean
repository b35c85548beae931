import LoxLexer.Proofs.Cursor
import LoxLexer.Proofs.Opening

/-!
# The longest match

Where a segment begins, the scanner takes the longest lexical text that stands
there, although it looks only two characters ahead.  A fault means that no
lexical text stands there at all.
-/

namespace LoxLexer

/-- A lexical prefix that no other lexical prefix exceeds. -/
structure IsLongest (piece source : Text) : Prop where
  lexical : IsLexical piece
  front : piece <+: source
  longest : ∀ other, IsLexical other → other <+: source →
    other.length ≤ piece.length

/-- Where no lexical text stands in front. -/
def NothingLexical (source : Text) : Prop :=
  ∀ other, other ≠ [] → other <+: source → ¬ IsLexical other

/-- The division of a text into longest matches from the left.  Where nothing
matches, one character is passed over, or all that is left if that character
is a quote. -/
inductive LeftmostLongest : Text → List Text → Prop where
  | nil : LeftmostLongest [] []
  | longest {piece rest : Text} {pieces : List Text} :
      IsLongest piece (piece ++ rest) →
      LeftmostLongest rest pieces →
      LeftmostLongest (piece ++ rest) (piece :: pieces)
  | stray {character : Char} {rest : Text} {pieces : List Text} :
      NothingLexical (character :: rest) →
      character ≠ '"' →
      LeftmostLongest rest pieces →
      LeftmostLongest (character :: rest) ([character] :: pieces)
  | openString {rest : Text} :
      NothingLexical ('"' :: rest) →
      LeftmostLongest ('"' :: rest) ['"' :: rest]

/-! ## Nothing longer matches -/

section Runs

variable {member : Char → Bool} {left right behind rest : Text}

/-- A run of a class that stops inside a text is no longer than the whole run. -/
theorem length_le_of_run
    (inside : ∀ character ∈ left, member character = true)
    (stops : ∀ character ∈ rest.head?, member character = false)
    (joined : left ++ behind = right ++ rest)
    (insideRight : ∀ character ∈ right, member character = true) :
    left.length ≤ right.length := by
  have front := congrArg (List.takeWhile member) joined
  rw [List.takeWhile_append_of_pos inside,
    takeWhile_append_of_head insideRight stops] at front
  rw [← front, List.length_append]
  exact Nat.le_add_right _ _

end Runs

namespace Symbol

theorem length_spelling_le (mark : Symbol) :
    mark.spelling.length ≤ 2 := by
  cases mark <;> decide

theorem extension?_of_two
    {mark : Symbol} (two : mark.spelling.length ≠ 1) :
    mark.extension? = none := by
  cases mark
  case bangEqual | equalEqual | greaterEqual | lessEqual => rfl
  all_goals exact absurd rfl two

/-- Of two symbols in front of one text, the one that stands alone is the longer. -/
theorem length_le_of_alone
    {mark other : Symbol} {rest behind : Text}
    (alone : ∀ character ∈ mark.extension?, rest.head? ≠ some character)
    (joined : other.spelling ++ behind = mark.spelling ++ rest) :
    other.spelling.length ≤ mark.spelling.length := by
  by_cases single : other.spelling.length = 1
  · rw [single]
    exact List.length_pos_iff.mpr mark.spelling_ne_nil
  · have found := read?_of_spelling_append alone
    have otherAlone :=
      Segment.ends_symbol_of_extension? (extension?_of_two single) behind
    rw [← joined, read?_of_spelling_append otherAlone] at found
    obtain ⟨rfl, _⟩ := Prod.mk.inj (Option.some.inj found)
    exact Nat.le_refl _

end Symbol

theorem length_le_of_comment
    {body rest other behind : Text}
    (unbroken : '\n' ∉ body)
    (ends : ∀ character ∈ rest.head?, character = '\n')
    (isComment : IsComment other)
    (joined : other ++ behind = '/' :: '/' :: body ++ rest) :
    other.length ≤ ('/' :: '/' :: body).length := by
  obtain ⟨otherBody, otherUnbroken, rfl⟩ := isComment
  have bodies : otherBody ++ behind = body ++ rest := by
    simpa using joined
  have stops :
      ∀ character ∈ rest.head?, (!(character == '\n')) = false := by
    intro character found
    simpa using ends character found
  have shorter := length_le_of_run (inside_of_not_mem otherUnbroken) stops
    bodies (inside_of_not_mem unbroken)
  simpa using shorter

theorem point_stops {fraction : Text} :
    ∀ character ∈ ('.' :: fraction).head?, Character.isDigit character = false := by
  rintro character ⟨⟩
  rfl

theorem length_le_of_number
    {numeral : Numeral} {rest other behind : Text}
    (formed : numeral.WellFormed)
    (noDigit : ∀ character ∈ rest.head?, Character.isDigit character = false)
    (noFraction : numeral.fraction = [] → beginsFraction rest = false)
    (isNumber : IsNumber other)
    (joined : other ++ behind = numeral.text ++ rest) :
    other.length ≤ numeral.text.length := by
  obtain ⟨whole, fraction⟩ := numeral
  obtain ⟨⟨_, wholeDigits⟩, fractionDigits⟩ := formed
  cases fraction with
  | nil =>
      rcases isNumber with digits | ⟨otherWhole, otherFraction, digits, others, rfl⟩
      · exact length_le_of_run digits.2 noDigit joined wholeDigits
      · rw [List.append_assoc] at joined
        obtain ⟨_, pointed⟩ :=
          run_unique digits.2 point_stops joined wholeDigits noDigit
        have missing := noFraction rfl
        rw [← pointed] at missing
        cases otherFraction with
        | nil =>
            exact absurd rfl others.1
        | cons digit more =>
            have isDigit := others.2 digit (List.mem_cons_self ..)
            exact absurd isDigit (Bool.eq_false_iff.mp missing)
  | cons first tail =>
      have apart : other ++ behind = whole ++ ('.' :: (first :: tail ++ rest)) := by
        simpa [Numeral.text] using joined
      rcases isNumber with digits | ⟨otherWhole, otherFraction, digits, others, rfl⟩
      · have shorter := length_le_of_run digits.2 point_stops apart wholeDigits
        simp only [Numeral.text, List.length_append]
        omega
      · rw [List.append_assoc] at apart
        obtain ⟨rfl, pointed⟩ :=
          run_unique digits.2 point_stops apart wholeDigits point_stops
        have fractions := (List.cons.inj pointed).2
        have shorter := length_le_of_run others.2 noDigit fractions fractionDigits
        simp only [Numeral.text, List.length_append, List.length_cons] at shorter ⊢
        omega

theorem length_le_of_symbol
    {mark : Symbol} {rest other behind : Text}
    (alone : ∀ character ∈ mark.extension?, rest.head? ≠ some character)
    (allowed : Opening.mark.Allows other)
    (joined : other ++ behind = mark.spelling ++ rest) :
    other.length ≤ mark.spelling.length := by
  rcases allowed with ⟨shorter, rfl⟩ | ⟨body, _, rfl⟩
  · exact Symbol.length_le_of_alone alone joined
  · have head := congrArg List.head? joined
    rw [List.head?_append_of_ne_nil _ mark.spelling_ne_nil] at head
    obtain rfl := Symbol.eq_slash_of_head head.symm
    have following := congrArg List.head? (List.cons.inj joined).2
    exact absurd following.symm (alone '/' rfl)

theorem IsStray.not_allowed
    {character : Char} {rest other behind : Text}
    (stray : IsStray character)
    (joined : other ++ behind = [character] ++ rest) :
    ¬ Opening.mark.Allows other := by
  rintro (⟨mark, rfl⟩ | ⟨body, _, rfl⟩)
  · have head := congrArg List.head? joined
    rw [List.head?_append_of_ne_nil _ mark.spelling_ne_nil] at head
    exact stray.symbol mark head
  · obtain ⟨rfl, _⟩ := List.cons.inj joined
    exact stray.symbol .slash rfl

theorem not_isString_of_unquoted
    {body other behind : Text}
    (unquoted : '"' ∉ body) (joined : other ++ behind = '"' :: body) :
    ¬ IsString other := by
  rintro ⟨otherBody, _, rfl⟩
  have bodies : otherBody ++ '"' :: behind = body := by
    simpa using joined
  rw [← bodies] at unquoted
  simp at unquoted

namespace Segment

/-- Whether a segment is reported as a fault. -/
def isFaulty : Segment → Bool
  | stray _ => true
  | openString _ => true
  | _ => false

def opening : Segment → Opening
  | blank _ => .blank
  | comment _ => .mark
  | symbol _ => .mark
  | word _ => .letter
  | number _ => .digit
  | string _ => .quote
  | stray _ => .mark
  | openString _ => .quote

theorem WellFormed.ofText?_eq
    {segment : Segment} (formed : segment.WellFormed) :
    Opening.ofText? segment.text = some segment.opening := by
  cases segment with
  | blank character =>
      exact congrArg some (Opening.ofCharacter_of_isBlank formed)
  | symbol mark =>
      exact mark.opening
  | word letters =>
      exact IsWord.opening formed
  | number numeral =>
      exact (Numeral.WellFormed.isNumber formed).opening
  | stray character =>
      have stray : IsStray character := formed
      simp [text, opening, Opening.ofText?, Opening.ofCharacter, stray.blank,
        stray.quote, stray.digit, stray.letter]
  | _ =>
      rfl

/-- In front of a text that a segment fits, no lexical text is longer, and none
is there at all if the segment is faulty. -/
theorem Fits.longest
    {segment : Segment} {rest other : Text}
    (fits : segment.Fits rest) (lexical : IsLexical other)
    (front : other <+: segment.text ++ rest) :
    segment.isFaulty = false ∧ other.length ≤ segment.text.length := by
  obtain ⟨formed, ends⟩ := fits
  obtain ⟨behind, joined⟩ := front
  have allowed : segment.opening.Allows other := by
    apply lexical.allows
    rw [← formed.ofText?_eq]
    exact Opening.ofText?_eq_of_joined lexical.ne_nil formed.text_ne_nil joined
  cases segment with
  | blank character =>
      obtain ⟨_, _, rfl⟩ := allowed
      exact ⟨rfl, Nat.le_refl 1⟩
  | comment body =>
      refine ⟨rfl, ?_⟩
      rcases allowed with ⟨mark, rfl⟩ | isComment
      · exact Nat.le_trans mark.length_spelling_le (Nat.le_add_left 2 body.length)
      · exact length_le_of_comment formed ends isComment joined
  | symbol mark =>
      exact ⟨rfl, length_le_of_symbol ends allowed joined⟩
  | word letters =>
      exact ⟨rfl, length_le_of_run (IsWord.all_wordCharacters allowed) ends
        joined (IsWord.all_wordCharacters formed)⟩
  | number numeral =>
      exact ⟨rfl, length_le_of_number formed ends.1 ends.2 allowed joined⟩
  | string body =>
      obtain ⟨otherBody, unquoted, rfl⟩ := allowed
      rw [(string_unique unquoted formed joined).1]
      exact ⟨rfl, Nat.le_refl _⟩
  | stray character =>
      exact absurd allowed (IsStray.not_allowed formed joined)
  | openString body =>
      have ended : rest = [] := ends
      rw [ended, List.append_nil] at joined
      exact absurd allowed (not_isString_of_unquoted formed joined)

end Segment

/-! ## The scanner takes the longest match -/

/-- The text of a segment that is not faulty is lexical. -/
theorem Segment.WellFormed.isLexical
    {segment : Segment} (formed : segment.WellFormed)
    (sound : segment.isFaulty = false) :
    IsLexical segment.text := by
  cases segment with
  | blank character =>
      exact .blank ⟨character, formed, rfl⟩
  | comment body =>
      exact .comment ⟨body, formed, rfl⟩
  | symbol mark =>
      exact .lexeme (.symbol mark)
  | word letters =>
      exact .lexeme (.word formed)
  | number numeral =>
      exact .lexeme (.number (Numeral.WellFormed.isNumber formed))
  | string body =>
      exact .lexeme (.string ⟨body, formed, rfl⟩)
  | stray character =>
      cases sound
  | openString body =>
      cases sound

theorem Segment.Fits.isLongest
    {segment : Segment} {rest : Text} (fits : segment.Fits rest)
    (sound : segment.isFaulty = false) :
    IsLongest segment.text (segment.text ++ rest) where
  lexical := fits.1.isLexical sound
  front := List.prefix_append segment.text rest
  longest := fun _ lexical front => (fits.longest lexical front).2

theorem Segment.Fits.nothingLexical_iff
    {segment : Segment} {rest : Text} (fits : segment.Fits rest) :
    NothingLexical (segment.text ++ rest) ↔ segment.isFaulty = true := by
  constructor
  · intro nothing
    by_contra sound
    have lexical := fits.1.isLexical (Bool.eq_false_iff.mpr sound)
    exact nothing segment.text fits.1.text_ne_nil
      (List.prefix_append segment.text rest) lexical
  · intro faulty other _ front lexical
    have sound := (fits.longest lexical front).1
    rw [faulty] at sound
    cases sound

/-- A faulty segment is one character, or all that is left behind a quote. -/
theorem Segment.Fits.text_of_faulty
    {segment : Segment} {rest : Text} (fits : segment.Fits rest)
    (faulty : segment.isFaulty = true) :
    segment.text =
      if (segment.text ++ rest).head? = some '"' then segment.text ++ rest
      else (segment.text ++ rest).take 1 := by
  cases segment with
  | stray character =>
      have stray : IsStray character := fits.1
      have notQuote : character ≠ '"' := by
        rintro rfl
        exact absurd stray.quote (by decide)
      simp [text, notQuote]
  | openString body =>
      have ended : rest = [] := fits.2
      simp [text, ended]
  | _ =>
      cases faulty

theorem leftmostLongest_texts
    {row : List Segment} (fits : RowFits row) :
    LeftmostLongest (row.flatMap Segment.text) (row.map Segment.text) := by
  induction row with
  | nil =>
      exact .nil
  | cons segment rest induction =>
      rw [List.flatMap_cons, List.map_cons]
      have later := induction fits.2
      cases faulty : segment.isFaulty with
      | false =>
          exact .longest (fits.1.isLongest faulty) later
      | true =>
          have nothing := fits.1.nothingLexical_iff.mpr faulty
          cases segment with
          | stray character =>
              have stray : IsStray character := fits.1.1
              refine .stray nothing ?_ later
              rintro rfl
              exact absurd stray.quote (by decide)
          | openString body =>
              have ended : rest.flatMap Segment.text = [] := fits.1.2
              have alone : rest = [] := by
                cases rest with
                | nil =>
                    rfl
                | cons next more =>
                    simp only [List.flatMap_cons, List.append_eq_nil_iff] at ended
                    exact absurd ended.1 fits.2.1.1.text_ne_nil
              subst rest
              rw [List.flatMap_nil, List.append_nil] at nothing ⊢
              exact .openString nothing
          | _ =>
              cases faulty

theorem IsLongest.unique
    {left right source : Text}
    (first : IsLongest left source) (second : IsLongest right source) :
    left = right := by
  have shorter := second.longest left first.lexical first.front
  have longer := first.longest right second.lexical second.front
  have nested := List.prefix_of_prefix_length_le first.front second.front shorter
  exact nested.eq_of_length_le longer

theorem IsLongest.not_nothingLexical
    {piece source : Text} (longest : IsLongest piece source) :
    ¬ NothingLexical source :=
  fun nothing =>
    nothing piece longest.lexical.ne_nil longest.front longest.lexical

theorem LeftmostLongest.inversion
    {source : Text} {pieces : List Text} (divided : LeftmostLongest source pieces) :
    (source = [] ∧ pieces = []) ∨
      (∃ piece rest more,
        source = piece ++ rest ∧ pieces = piece :: more ∧
          IsLongest piece source ∧ LeftmostLongest rest more) ∨
      (∃ character rest more,
        source = character :: rest ∧ pieces = [character] :: more ∧
          NothingLexical source ∧ character ≠ '"' ∧ LeftmostLongest rest more) ∨
      ((∃ rest, source = '"' :: rest) ∧ pieces = [source] ∧
        NothingLexical source) := by
  cases divided with
  | nil =>
      exact Or.inl ⟨rfl, rfl⟩
  | longest longest later =>
      exact Or.inr (Or.inl ⟨_, _, _, rfl, rfl, longest, later⟩)
  | stray nothing different later =>
      exact Or.inr (Or.inr (Or.inl ⟨_, _, _, rfl, rfl, nothing, different, later⟩))
  | openString nothing =>
      exact Or.inr (Or.inr (Or.inr ⟨⟨_, rfl⟩, rfl, nothing⟩))

/-- A text is divided into longest matches in one way only. -/
theorem LeftmostLongest.unique
    {source : Text} {left right : List Text}
    (first : LeftmostLongest source left) (second : LeftmostLongest source right) :
    left = right := by
  induction first generalizing right with
  | nil =>
      rcases second.inversion with ⟨_, rfl⟩ | ⟨piece, rest, more, joined, _, longest, _⟩ |
        ⟨_, _, _, joined, _⟩ | ⟨⟨_, joined⟩, _⟩
      · rfl
      · obtain ⟨rfl, _⟩ := List.append_eq_nil_iff.mp joined.symm
        exact absurd rfl longest.lexical.ne_nil
      · cases joined
      · cases joined
  | longest longest _ induction =>
      rcases second.inversion with ⟨empty, _⟩ | ⟨piece, rest, more, joined, rfl, other, later⟩ |
        ⟨_, _, _, _, _, nothing, _⟩ | ⟨_, _, nothing⟩
      · obtain ⟨rfl, _⟩ := List.append_eq_nil_iff.mp empty
        exact absurd rfl longest.lexical.ne_nil
      · obtain rfl := longest.unique other
        obtain rfl := List.append_cancel_left joined
        rw [induction later]
      · exact absurd nothing longest.not_nothingLexical
      · exact absurd nothing longest.not_nothingLexical
  | stray nothing different _ induction =>
      rcases second.inversion with ⟨empty, _⟩ | ⟨_, _, _, _, _, longest, _⟩ |
        ⟨_, _, _, joined, rfl, _, _, later⟩ | ⟨⟨_, joined⟩, _⟩
      · cases empty
      · exact absurd nothing longest.not_nothingLexical
      · obtain ⟨rfl, rfl⟩ := List.cons.inj joined
        rw [induction later]
      · exact absurd (List.cons.inj joined).1 different
  | openString nothing =>
      rcases second.inversion with ⟨empty, _⟩ | ⟨_, _, _, _, _, longest, _⟩ |
        ⟨_, _, _, joined, _, _, different, _⟩ | ⟨_, rfl, _⟩
      · cases empty
      · exact absurd nothing longest.not_nothingLexical
      · exact absurd (List.cons.inj joined).1.symm different
      · rfl

theorem leftmostLongest_iff {source : Text} {pieces : List Text} :
    LeftmostLongest source pieces ↔ pieces = (Scanner.ofText source).pieces := by
  have divided := leftmostLongest_texts (rowFits_segments source)
  rw [flatMap_text_segments] at divided
  rw [Scanner.pieces_eq, Scanner.remaining_ofText]
  constructor
  · intro other
    exact other.unique divided
  · rintro rfl
    exact divided

theorem faulty_iff_reported
    {scanner : Scanner} {first : Char} {rest : Text}
    (sees : scanner.remaining = first :: rest)
    (inside : scanner.atEnd = false) :
    (scanner.scanSegment inside).faults ≠ scanner.faults ↔
      (Segment.next first rest).1.isFaulty = true := by
  rw [Scanner.faults_scanSegment sees, Ne, List.append_right_eq_self]
  cases (Segment.next first rest).1 <;>
    simp [Segment.event?, Event.fault?, Segment.isFaulty]

/-- Wherever a scan begins a segment, it takes the longest lexical text in front,
and reports a fault exactly where there is none; then it takes one character, or
everything behind a quote.  Its pieces are the only leftmost-longest division. -/
theorem scan_takes_longest_match (source : Text) :
    (∀ scanner : Scanner, Scanner.Reached source scanner →
      ∀ inside : scanner.atEnd = false,
        ((scanner.scanSegment inside).faults = scanner.faults →
          IsLongest (scanner.scanSegment inside).lexeme
            (source.drop scanner.current)) ∧
        ((scanner.scanSegment inside).faults ≠ scanner.faults ↔
          NothingLexical (source.drop scanner.current)) ∧
        ((scanner.scanSegment inside).faults ≠ scanner.faults →
          (scanner.scanSegment inside).lexeme =
            if (source.drop scanner.current).head? = some '"' then
              source.drop scanner.current
            else (source.drop scanner.current).take 1)) ∧
    ∀ pieces : List Text,
      LeftmostLongest source pieces ↔
        pieces = (Scanner.ofText source).pieces := by
  refine ⟨fun scanner reached inside => ?_, fun pieces => leftmostLongest_iff⟩
  rw [← reached.remaining_eq]
  cases sees : scanner.remaining with
  | nil =>
      exact absurd (Scanner.atEnd_iff.mpr sees) (by simp [inside])
  | cons first rest =>
      have fits := Segment.fits_next first rest
      have reported := faulty_iff_reported sees inside
      rw [Scanner.lexeme_scanSegment sees, ← Segment.text_append_next first rest]
      refine ⟨fun silent => ?_, ?_, fun loud => ?_⟩
      · apply fits.isLongest
        rw [← Bool.not_eq_true, ← reported]
        exact fun loud => loud silent
      · rw [reported, fits.nothingLexical_iff]
      · exact fits.text_of_faulty (reported.mp loud)

end LoxLexer
