import LoxLexer.Scan

/-! # Segments of a source text

A source text falls into consecutive segments: blanks, comments, the characters
of each token, and what no token accounts for.  `Segment.next` reads the segment
at the front of a text and `segments` divides a whole text, without a cursor and
without counting lines.  Nothing is lost: the segments of a text, written one
after the other, are the text.
-/

namespace LoxLexer

/-- A stretch of source text of a single lexical class. -/
inductive Segment where
  | blank (character : Char)
  /-- Two slashes and the rest of the line. -/
  | comment (body : Text)
  /-- An operator or a punctuation mark. -/
  | symbol (mark : Symbol)
  /-- A keyword or an identifier. -/
  | word (letters : Text)
  | number (numeral : Numeral)
  /-- A string with both of its quotes. -/
  | string (body : Text)
  /-- A character that begins no other segment. -/
  | stray (character : Char)
  /-- A string whose closing quote is missing. -/
  | openString (body : Text)
  deriving DecidableEq, Repr

namespace Segment

def text : Segment → Text
  | blank character => [character]
  | comment body => '/' :: '/' :: body
  | symbol mark => mark.spelling
  | word letters => letters
  | number numeral => numeral.text
  | string body => '"' :: body ++ ['"']
  | stray character => [character]
  | openString body => '"' :: body

/-- The number of lines that end within a segment. -/
def lineFeeds (segment : Segment) : Nat :=
  segment.text.countP Character.isLineFeed

/-- The string whose opening quote stands before `rest`, and what follows it. -/
def readString (rest : Text) : Segment × Text :=
  match rest.dropWhile fun character => !Character.isQuote character with
  | [] => (openString rest, [])
  | _ :: after =>
      (string (rest.takeWhile fun character => !Character.isQuote character), after)

/-- The comment whose two slashes stand before `rest`, and what follows it. -/
def readComment (rest : Text) : Segment × Text :=
  (comment (rest.takeWhile fun character => !Character.isLineFeed character),
    rest.dropWhile fun character => !Character.isLineFeed character)

/-- The number that begins with the digit `first`, and what follows it. -/
def readNumber (first : Char) (rest : Text) : Segment × Text :=
  let (numeral, after) := Numeral.read (first :: rest)
  (number numeral, after)

/-- The word that begins with the letter `first`, and what follows it. -/
def readWord (first : Char) (rest : Text) : Segment × Text :=
  (word (first :: rest.takeWhile Character.isWordCharacter),
    rest.dropWhile Character.isWordCharacter)

/-- The symbol that begins with `first`, and what follows it; failing that,
`first` is a stray character. -/
def readSymbol (first : Char) (rest : Text) : Segment × Text :=
  match Symbol.read? (first :: rest) with
  | some (mark, after) => (symbol mark, after)
  | none => (stray first, rest)

/-- The segment at the front of a text that begins with `first`, and what
follows it. -/
def next (first : Char) (rest : Text) : Segment × Text :=
  if Character.isBlank first then (blank first, rest)
  else if Character.isQuote first then readString rest
  else if Character.isDigit first then readNumber first rest
  else if Character.isLetter first then readWord first rest
  else
    match first, rest with
    | '/', '/' :: body => readComment body
    | _, _ => readSymbol first rest

/-! ## What a segment leaves -/

theorem text_append_readString (rest : Text) :
    (readString rest).1.text ++ (readString rest).2 = '"' :: rest := by
  have joined := List.takeWhile_append_dropWhile
    (p := fun character => !Character.isQuote character) (l := rest)
  unfold readString
  split
  · simp [text]
  · rename_i quote after remains
    have isQuote : quote = '"' := by
      have stopped := List.head?_dropWhile_not
        (fun character => !Character.isQuote character) rest
      rw [remains] at stopped
      simpa [Character.isQuote] using stopped
    rw [remains, isQuote] at joined
    simpa [text] using joined

theorem text_append_readComment (rest : Text) :
    (readComment rest).1.text ++ (readComment rest).2 = '/' :: '/' :: rest := by
  simp [readComment, text, List.takeWhile_append_dropWhile]

theorem text_append_readNumber (first : Char) (rest : Text) :
    (readNumber first rest).1.text ++ (readNumber first rest).2 = first :: rest :=
  Numeral.text_append_read (first :: rest)

theorem text_append_readWord (first : Char) (rest : Text) :
    (readWord first rest).1.text ++ (readWord first rest).2 = first :: rest := by
  simp [readWord, text, List.takeWhile_append_dropWhile]

theorem text_append_readSymbol (first : Char) (rest : Text) :
    (readSymbol first rest).1.text ++ (readSymbol first rest).2 = first :: rest := by
  unfold readSymbol
  split
  · rename_i found
    exact Symbol.spelling_append_of_read? found
  · rfl

/-- A segment and what follows it are the text that was read. -/
theorem text_append_next (first : Char) (rest : Text) :
    (next first rest).1.text ++ (next first rest).2 = first :: rest := by
  unfold next
  split
  · rfl
  · split
    · rename_i quoted
      have isQuote : first = '"' := by simpa [Character.isQuote] using quoted
      rw [text_append_readString, isQuote]
    · split
      · exact text_append_readNumber first rest
      · split
        · exact text_append_readWord first rest
        · split
          · exact text_append_readComment _
          · exact text_append_readSymbol first rest

/-! ## A segment is never empty -/

theorem text_readNumber_ne_nil {first : Char} (rest : Text)
    (digit : Character.isDigit first = true) :
    (readNumber first rest).1.text ≠ [] := by
  have whole : (Numeral.read (first :: rest)).1.whole ≠ [] := by
    unfold Numeral.read
    split
    · split <;> simp [digit]
    · simp [digit]
  change (Numeral.read (first :: rest)).1.text ≠ []
  unfold Numeral.text
  split
  · exact whole
  · simp

theorem text_readSymbol_ne_nil (first : Char) (rest : Text) :
    (readSymbol first rest).1.text ≠ [] := by
  unfold readSymbol
  split
  · exact Symbol.spelling_ne_nil _
  · simp [text]

theorem text_next_ne_nil (first : Char) (rest : Text) :
    (next first rest).1.text ≠ [] := by
  unfold next
  split
  · simp [text]
  · split
    · unfold readString
      split <;> simp [text]
    · split
      · rename_i digit
        exact text_readNumber_ne_nil rest digit
      · split
        · simp [readWord, text]
        · split
          · simp [readComment, text]
          · exact text_readSymbol_ne_nil first rest

theorem length_next_lt (first : Char) (rest : Text) :
    (next first rest).2.length < (first :: rest).length := by
  have lengths := congrArg List.length (text_append_next first rest)
  rw [List.length_append] at lengths
  have positive := List.length_pos_iff.mpr (text_next_ne_nil first rest)
  omega

end Segment

/-! ## All segments of a text -/

def segments : Text → List Segment
  | [] => []
  | first :: rest =>
      (Segment.next first rest).1 :: segments (Segment.next first rest).2
termination_by source => source.length
decreasing_by exact Segment.length_next_lt first rest

@[simp] theorem segments_nil :
    segments [] = [] := by
  rw [segments]

theorem segments_cons (first : Char) (rest : Text) :
    segments (first :: rest) =
      (Segment.next first rest).1 :: segments (Segment.next first rest).2 := by
  rw [segments]

/-- The segments of a text, written one after the other, are the text. -/
theorem flatMap_text_segments (source : Text) :
    (segments source).flatMap Segment.text = source := by
  fun_induction segments source with
  | case1 => rfl
  | case2 first rest induction =>
      rw [List.flatMap_cons, induction, Segment.text_append_next]

/-! ## What segments contribute to a scan -/

namespace Segment

/-- The event of a segment that begins on `line`. -/
def event? (line : Nat) (segment : Segment) : Option Event :=
  match segment with
  | blank _ => none
  | comment _ => none
  | symbol mark => some (.token ⟨.symbol mark, segment.text, .absent, line⟩)
  | word letters =>
      some (.token ⟨Kind.ofWord letters, segment.text, .absent, line⟩)
  | number numeral =>
      some (.token ⟨.number, segment.text, .number numeral.nearest, line⟩)
  | string body => some (.token ⟨.string, segment.text, .text body, line⟩)
  | stray character => some (.fault ⟨line, .unexpectedCharacter character⟩)
  | openString _ => some (.fault ⟨line, .unterminatedString⟩)

end Segment

/-- The scan of a row of segments, the first of which begins on `line`. -/
def Scan.ofSegments (line : Nat) : List Segment → Scan
  | [] => ⟨[], line⟩
  | segment :: rest =>
      let later := ofSegments (line + segment.lineFeeds) rest
      ⟨(segment.event? line).toList ++ later.events, later.lastLine⟩

theorem mem_events_ofSegments
    {line : Nat} {row : List Segment} {event : Event}
    (member : event ∈ (Scan.ofSegments line row).events) :
    ∃ segment ∈ row, ∃ begun, segment.event? begun = some event := by
  induction row generalizing line with
  | nil =>
      cases member
  | cons segment rest induction =>
      rcases List.mem_append.mp member with here | later
      · exact ⟨segment, List.mem_cons_self .., line, by simpa using here⟩
      · obtain ⟨found, inRest, contributes⟩ := induction later
        exact ⟨found, List.mem_cons_of_mem segment inRest, contributes⟩

theorem exists_segment_of_mem_tokens
    {line : Nat} {row : List Segment} {token : Token}
    (member : token ∈ (Scan.ofSegments line row).events.filterMap Event.token?) :
    ∃ segment ∈ row, ∃ begun, segment.event? begun = some (.token token) := by
  obtain ⟨event, isEvent, isToken⟩ := List.mem_filterMap.mp member
  cases event with
  | token found =>
      obtain rfl := Option.some.inj isToken
      exact mem_events_ofSegments isEvent
  | fault located =>
      cases isToken

/-- Whatever is read off an event without its line is read off the segments. -/
theorem filterMap_events_ofSegments
    {α : Type} {view : Event → Option α} {part : Segment → Option α}
    (agrees : ∀ line segment, (Segment.event? line segment).bind view = part segment)
    (line : Nat) (row : List Segment) :
    (Scan.ofSegments line row).events.filterMap view = row.filterMap part := by
  induction row generalizing line with
  | nil =>
      rfl
  | cons segment rest induction =>
      have here :
          (segment.event? line).toList.filterMap view = (part segment).toList := by
        rw [← agrees line segment]
        cases segment.event? line with
        | none => rfl
        | some event => cases view event <;> rfl
      simp only [Scan.ofSegments, List.filterMap_append, induction, here,
        List.filterMap_cons]
      cases part segment <;> rfl

end LoxLexer
