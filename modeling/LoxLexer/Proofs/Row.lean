import LoxLexer.Proofs.Grammar
import LoxLexer.Proofs.Segment
import Mathlib.Data.List.TakeWhile

/-!
# Rows of segments

Which segment is read at the front of a text is settled by the segment alone and
by at most two characters behind it.  `Segment.Fits` says so segment by segment,
and a row of segments is the division of a text exactly when every segment of
the row fits before the ones that follow it.
-/

namespace LoxLexer

/-! ## What must not follow -/

/-- The character that would make a symbol part of something longer. -/
def Symbol.extension? : Symbol → Option Char
  | .bang => some '='
  | .equal => some '='
  | .greater => some '='
  | .less => some '='
  | .slash => some '/'
  | _ => none

/-- The symbol that the first character of a symbol is by itself. -/
def Symbol.front : Symbol → Symbol
  | .bangEqual => .bang
  | .equalEqual => .equal
  | .greaterEqual => .greater
  | .lessEqual => .less
  | mark => mark

/-- A point with a digit behind it. -/
def beginsFraction : Text → Bool
  | '.' :: digit :: _ => Character.isDigit digit
  | _ => false

/-- Digits in front, and nothing but digits behind the point. -/
def Numeral.WellFormed (numeral : Numeral) : Prop :=
  IsDigits numeral.whole ∧
    ∀ digit ∈ numeral.fraction, Character.isDigit digit = true

namespace Segment

/-- What a segment has to be by itself. -/
def WellFormed : Segment → Prop
  | blank character => Character.isBlank character = true
  | comment body => '\n' ∉ body
  | symbol _ => True
  | word letters => IsWord letters
  | number numeral => numeral.WellFormed
  | string body => '"' ∉ body
  | stray character => IsStray character
  | openString body => '"' ∉ body

/-- What a segment asks of the text behind it. -/
def EndsBefore : Segment → Text → Prop
  | comment _, rest => ∀ character ∈ rest.head?, character = '\n'
  | symbol mark, rest => ∀ character ∈ mark.extension?, rest.head? ≠ some character
  | word _, rest =>
      ∀ character ∈ rest.head?, Character.isWordCharacter character = false
  | number numeral, rest =>
      (∀ character ∈ rest.head?, Character.isDigit character = false) ∧
        (numeral.fraction = [] → beginsFraction rest = false)
  | openString _, rest => rest = []
  | _, _ => True

/-- A segment that is read where it stands in front of `rest`. -/
def Fits (segment : Segment) (rest : Text) : Prop :=
  segment.WellFormed ∧ segment.EndsBefore rest

theorem ends_symbol_of_extension?
    {mark : Symbol} (plain : mark.extension? = none) (rest : Text) :
    (symbol mark).EndsBefore rest := by
  intro character extends_
  rw [plain] at extends_
  cases extends_

end Segment

/-! ## Where a class of characters ends -/

section TakeWhile

variable {member : Char → Bool} {front left right behind rest : Text}

theorem takeWhile_append_of_head
    (inside : ∀ character ∈ front, member character = true)
    (stops : ∀ character ∈ rest.head?, member character = false) :
    (front ++ rest).takeWhile member = front := by
  rw [List.takeWhile_append_of_pos inside]
  cases rest with
  | nil =>
      simp
  | cons first tail =>
      simp [stops first rfl]

theorem dropWhile_append_of_head
    (inside : ∀ character ∈ front, member character = true)
    (stops : ∀ character ∈ rest.head?, member character = false) :
    (front ++ rest).dropWhile member = rest := by
  rw [List.dropWhile_append_of_pos inside]
  cases rest with
  | nil =>
      rfl
  | cons first tail =>
      simp [stops first rfl]

theorem head_dropWhile
    (member : Char → Bool) (rest : Text) :
    ∀ character ∈ (rest.dropWhile member).head?, member character = false := by
  intro character found
  have stopped := List.head?_dropWhile_not member rest
  rw [Option.mem_def.mp found] at stopped
  exact stopped

/-- Two runs of a class in front of one text are the same where both stop. -/
theorem run_unique
    (inside : ∀ character ∈ left, member character = true)
    (stopsLeft : ∀ character ∈ behind.head?, member character = false)
    (joined : left ++ behind = right ++ rest)
    (insideRight : ∀ character ∈ right, member character = true)
    (stopsRight : ∀ character ∈ rest.head?, member character = false) :
    left = right ∧ behind = rest := by
  have front := congrArg (List.takeWhile member) joined
  have back := congrArg (List.dropWhile member) joined
  rw [takeWhile_append_of_head inside stopsLeft,
    takeWhile_append_of_head insideRight stopsRight] at front
  rw [dropWhile_append_of_head inside stopsLeft,
    dropWhile_append_of_head insideRight stopsRight] at back
  exact ⟨front, back⟩

/-- Whether told by a quote or by a line feed, a body without its boundary is
all inside. -/
theorem inside_of_not_mem
    {boundary : Char} {body : Text} (absent : boundary ∉ body) :
    ∀ character ∈ body, (!(character == boundary)) = true := by
  intro character member
  have different : character ≠ boundary := fun same => absent (same ▸ member)
  simpa using different

/-- What stands in front of the first boundary of a text is told by the text. -/
theorem delimited_unique
    {boundary : Char} (absent : boundary ∉ left) (absentRight : boundary ∉ right)
    (joined : left ++ boundary :: behind = right ++ boundary :: rest) :
    left = right ∧ behind = rest := by
  have stops : ∀ text : Text, ∀ character ∈ (boundary :: text).head?,
      (!(character == boundary)) = false := by
    rintro text character ⟨⟩
    simp
  obtain ⟨bodies, later⟩ := run_unique (inside_of_not_mem absent) (stops behind) joined
    (inside_of_not_mem absentRight) (stops rest)
  exact ⟨bodies, (List.cons.inj later).2⟩

/-- Two strings at the front of one text are the same. -/
theorem string_unique
    (unquoted : '"' ∉ left) (unquotedRight : '"' ∉ right)
    (joined : '"' :: left ++ ['"'] ++ behind = '"' :: right ++ ['"'] ++ rest) :
    left = right ∧ behind = rest := by
  have bodies : left ++ '"' :: behind = right ++ '"' :: rest := by
    simpa using joined
  exact delimited_unique unquoted unquotedRight bodies

end TakeWhile

/-! ## Symbols at the front of a text -/

namespace Symbol

theorem ofText?_pair_eq_none
    {first second : Char} (different : second ≠ '=') :
    ofText? [first, second] = none := by
  rw [Option.eq_none_iff_forall_ne_some]
  intro mark found
  have spelled := ofText?_eq_some_iff.mp found
  cases mark <;> simp only [spelling, List.cons.injEq, reduceCtorEq, and_false] at spelled <;>
    exact different spelled.2.1.symm

/-- A symbol stands alone where its extension does not follow. -/
theorem read?_of_spelling_append
    {mark : Symbol} {rest : Text}
    (alone : ∀ character ∈ mark.extension?, rest.head? ≠ some character) :
    read? (mark.spelling ++ rest) = some (mark, rest) := by
  cases rest with
  | nil =>
      cases mark <;> rfl
  | cons second tail =>
      by_cases equals : second = '='
      · subst second
        cases mark
        case bang | equal | greater | less => exact absurd rfl (alone '=' rfl)
        all_goals rfl
      · cases mark
        case bangEqual | equalEqual | greaterEqual | lessEqual => rfl
        all_goals
          rw [spelling, List.singleton_append, read?, ofText?_pair_eq_none equals]
          rfl

theorem spelling_front
    {mark : Symbol} {first : Char} (head : mark.spelling.head? = some first) :
    mark.front.spelling = [first] := by
  cases mark <;> cases head <;> rfl

theorem head_spelling_ne_of_read?_eq_none
    {first : Char} {rest : Text} (missing : read? (first :: rest) = none)
    (mark : Symbol) :
    mark.spelling.head? ≠ some first := by
  intro head
  have found := ofText?_eq_some_iff.mpr (spelling_front head)
  cases rest with
  | nil =>
      simp [read?, found] at missing
  | cons second tail =>
      simp only [read?] at missing
      split at missing
      · cases missing
      · simp [found] at missing

/-- No longer symbol is overlooked. -/
theorem alone_of_read?
    {mark : Symbol} {first : Char} {rest after : Text}
    (found : read? (first :: rest) = some (mark, after))
    (plain : first = '/' → rest.head? ≠ some '/') :
    ∀ character ∈ mark.extension?, after.head? ≠ some character := by
  intro character extends_ following
  obtain ⟨tail, rfl⟩ := List.head?_eq_some_iff.mp following
  have spelled := spelling_append_of_read? found
  cases mark <;> cases extends_ <;> cases spelled
  case slash => exact plain rfl rfl
  all_goals exact absurd found (by simp [read?, ofText?, all, spelling])

theorem read?_eq_none_of_stray
    {character : Char} (stray : IsStray character) (rest : Text) :
    read? (character :: rest) = none := by
  cases found : read? (character :: rest) with
  | none =>
      rfl
  | some reading =>
      obtain ⟨mark, after⟩ := reading
      have spelled := spelling_append_of_read? found
      have head : mark.spelling.head? = some character := by
        cases letters : mark.spelling with
        | nil =>
            exact absurd letters mark.spelling_ne_nil
        | cons first others =>
            rw [letters] at spelled
            simpa using (List.cons.inj spelled).1
      exact absurd head (stray.symbol mark)

end Symbol

/-! ## Numerals at the front of a text -/

namespace Numeral

theorem WellFormed.text_eq_cons
    {numeral : Numeral} (formed : numeral.WellFormed) :
    ∃ digit others,
      numeral.text = digit :: others ∧ Character.isDigit digit = true := by
  obtain ⟨whole, fraction⟩ := numeral
  obtain ⟨⟨present, digits⟩, _⟩ := formed
  cases whole with
  | nil =>
      exact absurd rfl present
  | cons digit others =>
      have isDigit := digits digit (List.mem_cons_self ..)
      cases fraction with
      | nil =>
          exact ⟨digit, others, rfl, isDigit⟩
      | cons first rest =>
          exact ⟨digit, others ++ '.' :: first :: rest, rfl, isDigit⟩

theorem WellFormed.isNumber
    {numeral : Numeral} (formed : numeral.WellFormed) :
    IsNumber numeral.text := by
  obtain ⟨whole, fraction⟩ := numeral
  cases fraction with
  | nil =>
      exact Or.inl formed.1
  | cons first rest =>
      exact Or.inr ⟨whole, first :: rest, formed.1,
        ⟨List.cons_ne_nil first rest, formed.2⟩, rfl⟩

theorem mem_text
    {numeral : Numeral} {character : Char} (member : character ∈ numeral.text) :
    character ∈ numeral.whole ∨ character = '.' ∨
      character ∈ numeral.fraction := by
  unfold text at member
  split at member
  · exact Or.inl member
  · rename_i first rest written
    rw [written]
    simpa using member

theorem read_of_beginsFraction
    {source : Text}
    (fraction : beginsFraction (source.dropWhile Character.isDigit) = true) :
    ∃ digit tail,
      Character.isDigit digit = true ∧
        source.dropWhile Character.isDigit = '.' :: digit :: tail ∧
        read source =
          (⟨source.takeWhile Character.isDigit,
            digit :: tail.takeWhile Character.isDigit⟩,
            tail.dropWhile Character.isDigit) := by
  unfold beginsFraction at fraction
  split at fraction
  · rename_i digit tail remains
    refine ⟨digit, tail, fraction, remains, ?_⟩
    simp [read, remains, fraction]
  · cases fraction

theorem read_of_not_beginsFraction
    {source : Text}
    (noFraction : beginsFraction (source.dropWhile Character.isDigit) = false) :
    read source =
      (⟨source.takeWhile Character.isDigit, []⟩,
        source.dropWhile Character.isDigit) := by
  unfold read
  dsimp only
  split
  · rename_i digit tail remains
    rw [remains] at noFraction
    have plain : Character.isDigit digit = false := noFraction
    simp [plain, remains]
  · rfl

/-- All of a numeral is digits, but for the point. -/
theorem WellFormed.isDigit_or_point
    {numeral : Numeral} {character : Char} (formed : numeral.WellFormed)
    (member : character ∈ numeral.text) :
    Character.isDigit character = true ∨ character = '.' := by
  rcases mem_text member with inWhole | point | inFraction
  · exact Or.inl (formed.1.2 character inWhole)
  · exact Or.inr point
  · exact Or.inl (formed.2 character inFraction)

theorem WellFormed.unbroken_text
    {numeral : Numeral} (formed : numeral.WellFormed) :
    '\n' ∉ numeral.text := by
  intro member
  rcases formed.isDigit_or_point member with digit | point
  · cases digit
  · cases point

/-- A numeral is read back where no digit and no fraction follows it. -/
theorem read_text_append
    {numeral : Numeral} {rest : Text}
    (formed : numeral.WellFormed)
    (noDigit : ∀ character ∈ rest.head?, Character.isDigit character = false)
    (noFraction : numeral.fraction = [] → beginsFraction rest = false) :
    read (numeral.text ++ rest) = (numeral, rest) := by
  obtain ⟨whole, fraction⟩ := numeral
  obtain ⟨⟨_, wholeDigits⟩, fractionDigits⟩ := formed
  cases fraction with
  | nil =>
      have front := takeWhile_append_of_head wholeDigits noDigit
      have back := dropWhile_append_of_head wholeDigits noDigit
      have ended : beginsFraction ((whole ++ rest).dropWhile Character.isDigit) = false := by
        rw [back]
        exact noFraction rfl
      rw [text, read_of_not_beginsFraction ended, front, back]
  | cons first others =>
      have pointStops :
          ∀ character ∈ ('.' :: first :: (others ++ rest)).head?,
            Character.isDigit character = false := by
        rintro character ⟨⟩
        decide
      have otherDigits :
          ∀ character ∈ others, Character.isDigit character = true :=
        fun character member =>
          fractionDigits character (List.mem_cons_of_mem first member)
      have front := takeWhile_append_of_head wholeDigits pointStops
      have back := dropWhile_append_of_head wholeDigits pointStops
      simp only [text, read, List.append_assoc, List.cons_append]
      rw [front, back]
      simp only [fractionDigits first (List.mem_cons_self ..), if_true]
      rw [takeWhile_append_of_head otherDigits noDigit,
        dropWhile_append_of_head otherDigits noDigit]

theorem ofText?_text
    {numeral : Numeral} (formed : numeral.WellFormed) :
    ofText? numeral.text = some numeral := by
  have found : read numeral.text = (numeral, []) := by
    have whole : read (numeral.text ++ []) = (numeral, []) :=
      read_text_append formed (by simp) (fun _ => rfl)
    rwa [List.append_nil] at whole
  rw [ofText?, found]
  exact if_neg formed.1.1

/-- The numeral in front is well formed and is not cut short. -/
theorem ends_read
    {source : Text} (present : source.takeWhile Character.isDigit ≠ []) :
    (read source).1.WellFormed ∧
      (∀ character ∈ (read source).2.head?, Character.isDigit character = false) ∧
        ((read source).1.fraction = [] → beginsFraction (read source).2 = false) := by
  have whole : IsDigits (source.takeWhile Character.isDigit) :=
    ⟨present, fun character member => List.mem_takeWhile_imp member⟩
  cases point : beginsFraction (source.dropWhile Character.isDigit) with
  | true =>
      obtain ⟨digit, tail, isDigit, _, found⟩ := read_of_beginsFraction point
      rw [found]
      refine ⟨⟨whole, ?_⟩, head_dropWhile _ tail, ?_⟩
      · intro character member
        rcases List.mem_cons.mp member with rfl | later
        · exact isDigit
        · exact List.mem_takeWhile_imp later
      · intro empty
        cases empty
  | false =>
      rw [read_of_not_beginsFraction point]
      exact ⟨⟨whole, by simp⟩, head_dropWhile Character.isDigit source,
        fun _ => point⟩

end Numeral

/-! ## The segment at the front of a text -/

namespace Segment

theorem next_of_symbol
    {mark : Symbol} {first : Char} {tail rest : Text}
    (alone : (symbol mark).EndsBefore rest)
    (spelled : mark.spelling ++ rest = first :: tail) :
    next first tail = (symbol mark, rest) := by
  have found := Symbol.read?_of_spelling_append alone
  rw [spelled] at found
  have notComment : first = '/' → tail.head? ≠ some '/' := by
    rintro rfl slashes
    cases mark <;> simp_all [Symbol.spelling, EndsBefore, Symbol.extension?]
  have plain :
      Character.isBlank first = false ∧ Character.isQuote first = false ∧
        Character.isDigit first = false ∧ Character.isLetter first = false := by
    cases mark <;>
      · simp only [Symbol.spelling, List.cons_append, List.cons.injEq] at spelled
        rw [← spelled.1]
        decide
  obtain ⟨blank, quote, digit, letter⟩ := plain
  simp only [next, blank, quote, digit, letter, Bool.false_eq_true, if_false]
  split
  · exact absurd rfl (notComment rfl)
  · simp [readSymbol, found]

/-- A segment that fits is the one that is read. -/
theorem next_eq_of_fits
    {segment : Segment} {first : Char} {tail rest : Text}
    (fits : segment.Fits rest)
    (joined : segment.text ++ rest = first :: tail) :
    next first tail = (segment, rest) := by
  obtain ⟨formed, ends⟩ := fits
  cases segment with
  | blank character =>
      obtain ⟨rfl, rfl⟩ := List.cons.inj joined
      have blank : Character.isBlank character = true := formed
      simp [next, blank]
  | comment body =>
      obtain ⟨rfl, rfl⟩ := List.cons.inj joined
      have inside :
          ∀ character ∈ body, (!Character.isLineFeed character) = true :=
        inside_of_not_mem formed
      have stops :
          ∀ character ∈ rest.head?, (!Character.isLineFeed character) = false := by
        intro character found
        simpa [Character.isLineFeed] using ends character found
      change readComment (body ++ rest) = _
      rw [readComment, takeWhile_append_of_head inside stops,
        dropWhile_append_of_head inside stops]
  | symbol mark =>
      exact next_of_symbol ends joined
  | word letters =>
      cases letters with
      | nil =>
          exact absurd formed id
      | cons letter others =>
          obtain ⟨rfl, rfl⟩ := List.cons.inj joined
          have isLetter : Character.isLetter letter = true := formed.1
          have member := Character.isWordCharacter_of_isLetter isLetter
          simp only [next, Character.isBlank_eq_false_of_isWordCharacter member,
            Character.isQuote_eq_false_of_isWordCharacter member,
            Character.isDigit_eq_false_of_isLetter isLetter, isLetter,
            Bool.false_eq_true, if_false, if_true]
          change readWord letter (others ++ rest) = _
          rw [readWord, takeWhile_append_of_head formed.2 ends,
            dropWhile_append_of_head formed.2 ends]
  | number numeral =>
      have digit : Character.isDigit first = true := by
        obtain ⟨head, others, written, isDigit⟩ := formed.text_eq_cons
        rw [text, written] at joined
        exact (List.cons.inj joined).1 ▸ isDigit
      have member := Character.isWordCharacter_of_isDigit digit
      simp only [next, Character.isBlank_eq_false_of_isWordCharacter member,
        Character.isQuote_eq_false_of_isWordCharacter member, digit,
        Bool.false_eq_true, if_false, if_true]
      have found : Numeral.read (first :: tail) = (numeral, rest) := by
        rw [← joined]
        exact Numeral.read_text_append formed ends.1 ends.2
      rw [readNumber, found]
  | string body =>
      have unquoted :
          ∀ character ∈ body, (!Character.isQuote character) = true :=
        inside_of_not_mem formed
      have stops :
          ∀ character ∈ ('"' :: rest).head?,
            (!Character.isQuote character) = false := by
        rintro character ⟨⟩
        rfl
      obtain ⟨rfl, rfl⟩ : '"' = first ∧ body ++ '"' :: rest = tail := by
        simpa [text] using joined
      change readString (body ++ '"' :: rest) = _
      rw [readString, takeWhile_append_of_head unquoted stops,
        dropWhile_append_of_head unquoted stops]
  | stray character =>
      obtain ⟨rfl, rfl⟩ := List.cons.inj joined
      have stray : IsStray character := formed
      simp only [next, stray.blank, stray.quote, stray.digit, stray.letter,
        Bool.false_eq_true, if_false]
      split
      · exact absurd rfl (stray.symbol .slash)
      · simp [readSymbol, Symbol.read?_eq_none_of_stray stray]
  | openString body =>
      have ended : rest = [] := ends
      subst rest
      obtain ⟨rfl, rfl⟩ := List.cons.inj joined
      have unquoted :
          ∀ character ∈ body, (!Character.isQuote character) = true :=
        inside_of_not_mem formed
      change readString (body ++ []) = _
      rw [readString, dropWhile_append_of_head unquoted (by simp)]
      simp

/-! ## What is read fits -/

theorem not_mem_takeWhile
    (boundary : Char) (rest : Text) :
    boundary ∉ rest.takeWhile fun character => !(character == boundary) := by
  intro member
  simpa using List.mem_takeWhile_imp member

theorem fits_readString (rest : Text) :
    (readString rest).1.Fits (readString rest).2 := by
  unfold readString
  split
  · rename_i ended
    have unquoted := List.dropWhile_eq_nil_iff.mp ended
    refine ⟨?_, rfl⟩
    intro member
    simpa [Character.isQuote] using unquoted '"' member
  · exact ⟨not_mem_takeWhile '"' rest, trivial⟩

theorem fits_readComment (rest : Text) :
    (readComment rest).1.Fits (readComment rest).2 := by
  refine ⟨not_mem_takeWhile '\n' rest, ?_⟩
  intro character found
  have stopped := head_dropWhile _ rest character found
  simpa [Character.isLineFeed] using stopped

theorem fits_readNumber
    {first : Char} (rest : Text) (digit : Character.isDigit first = true) :
    (readNumber first rest).1.Fits (readNumber first rest).2 := by
  have present : (first :: rest).takeWhile Character.isDigit ≠ [] := by
    simp [digit]
  exact Numeral.ends_read present

theorem fits_readWord
    {first : Char} (rest : Text) (letter : Character.isLetter first = true) :
    (readWord first rest).1.Fits (readWord first rest).2 := by
  refine ⟨⟨letter, ?_⟩, head_dropWhile _ rest⟩
  intro character member
  exact List.mem_takeWhile_imp member

theorem fits_readSymbol
    {first : Char} (rest : Text)
    (blank : Character.isBlank first = false)
    (quote : Character.isQuote first = false)
    (digit : Character.isDigit first = false)
    (letter : Character.isLetter first = false)
    (plain : first = '/' → rest.head? ≠ some '/') :
    (readSymbol first rest).1.Fits (readSymbol first rest).2 := by
  unfold readSymbol
  split
  · rename_i mark after found
    exact ⟨trivial, Symbol.alone_of_read? found plain⟩
  · rename_i missing
    exact ⟨⟨blank, quote, digit, letter,
      Symbol.head_spelling_ne_of_read?_eq_none missing⟩, trivial⟩

theorem fits_next (first : Char) (rest : Text) :
    (next first rest).1.Fits (next first rest).2 := by
  unfold next
  split
  · rename_i blank
    exact ⟨blank, trivial⟩
  · rename_i notBlank
    split
    · exact fits_readString rest
    · rename_i notQuote
      split
      · rename_i digit
        exact fits_readNumber rest digit
      · rename_i notDigit
        split
        · rename_i letter
          exact fits_readWord rest letter
        · rename_i notLetter
          split
          · exact fits_readComment _
          · rename_i notComment
            apply fits_readSymbol rest
              (Bool.eq_false_iff.mpr notBlank) (Bool.eq_false_iff.mpr notQuote)
              (Bool.eq_false_iff.mpr notDigit) (Bool.eq_false_iff.mpr notLetter)
            intro slash following
            cases rest with
            | nil =>
                cases following
            | cons second tail =>
                injection following with second_eq
                exact notComment tail slash (by rw [second_eq])

end Segment

/-! ## Lines within a segment

Only a line feed by itself and a string have lines end in them.
-/

namespace Segment

theorem lineFeeds_eq_zero
    {segment : Segment} (unbroken : '\n' ∉ segment.text) :
    segment.lineFeeds = 0 :=
  Character.countP_isLineFeed_eq_zero_iff.mpr unbroken

theorem lineFeeds_symbol (mark : Symbol) :
    (symbol mark).lineFeeds = 0 := by
  cases mark <;> rfl

theorem lineFeeds_comment {body : Text} (formed : (comment body).WellFormed) :
    (comment body).lineFeeds = 0 := by
  apply lineFeeds_eq_zero
  have unbroken : '\n' ∉ body := formed
  simpa [text] using unbroken

theorem lineFeeds_word {letters : Text} (formed : (word letters).WellFormed) :
    (word letters).lineFeeds = 0 := by
  apply lineFeeds_eq_zero
  intro member
  cases letters with
  | nil =>
      cases member
  | cons letter others =>
      rcases List.mem_cons.mp member with rfl | later
      · exact absurd formed.1 (by decide)
      · exact absurd (formed.2 '\n' later) (by decide)

theorem lineFeeds_number {numeral : Numeral} (formed : numeral.WellFormed) :
    (number numeral).lineFeeds = 0 :=
  lineFeeds_eq_zero formed.unbroken_text

theorem lineFeeds_stray {character : Char} (stray : IsStray character) :
    (Segment.stray character).lineFeeds = 0 := by
  apply lineFeeds_eq_zero
  intro member
  have blank := stray.blank
  rw [← List.mem_singleton.mp member] at blank
  exact absurd blank (by decide)

theorem lineFeeds_string (body : Text) :
    (string body).lineFeeds = body.countP Character.isLineFeed := by
  simp [lineFeeds, text, Character.isLineFeed]

theorem lineFeeds_openString (body : Text) :
    (openString body).lineFeeds = body.countP Character.isLineFeed := by
  simp [lineFeeds, text, Character.isLineFeed]

end Segment

/-! ## Rows -/

/-- Every segment of a row fits before the text of those that follow it. -/
def RowFits : List Segment → Prop
  | [] => True
  | segment :: rest =>
      segment.Fits (rest.flatMap Segment.text) ∧ RowFits rest

theorem RowFits.tail
    {before after : List Segment} (fits : RowFits (before ++ after)) :
    RowFits after := by
  induction before with
  | nil =>
      exact fits
  | cons segment rest induction =>
      exact induction fits.2

theorem RowFits.wellFormed
    {row : List Segment} {segment : Segment}
    (fits : RowFits row) (member : segment ∈ row) :
    segment.WellFormed := by
  obtain ⟨before, after, rfl⟩ := List.append_of_mem member
  exact fits.tail.1.1

theorem rowFits_segments (source : Text) :
    RowFits (segments source) := by
  fun_induction segments source with
  | case1 =>
      trivial
  | case2 first rest induction =>
      refine ⟨?_, induction⟩
      rw [flatMap_text_segments]
      exact Segment.fits_next first rest

theorem Segment.WellFormed.text_ne_nil
    {segment : Segment} (formed : segment.WellFormed) :
    segment.text ≠ [] := by
  cases segment with
  | symbol mark =>
      exact mark.spelling_ne_nil
  | word letters =>
      rintro rfl
      exact formed
  | number numeral =>
      obtain ⟨digit, others, written, _⟩ := Numeral.WellFormed.text_eq_cons formed
      simp [text, written]
  | _ =>
      simp [text]

theorem segments_flatMap_text
    {row : List Segment} (fits : RowFits row) :
    segments (row.flatMap Segment.text) = row := by
  induction row with
  | nil =>
      simp
  | cons segment rest induction =>
      cases letters : (segment :: rest).flatMap Segment.text with
      | nil =>
          simp only [List.flatMap_cons, List.append_eq_nil_iff] at letters
          exact absurd letters.1 fits.1.1.text_ne_nil
      | cons first tail =>
          rw [List.flatMap_cons] at letters
          have read := Segment.next_eq_of_fits fits.1 letters
          rw [segments_cons, read, induction fits.2]

/-- A text is divided in one way only. -/
theorem segments_eq_iff {source : Text} {row : List Segment} :
    segments source = row ↔ row.flatMap Segment.text = source ∧ RowFits row := by
  constructor
  · rintro rfl
    exact ⟨flatMap_text_segments source, rowFits_segments source⟩
  · rintro ⟨rfl, fits⟩
    exact segments_flatMap_text fits

end LoxLexer
