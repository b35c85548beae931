import LoxLexer.Proofs.Cursor

/-!
# Line numbers

The scanner counts a line at a line feed between segments and inside strings,
and records one of two counters.  What it records is always the number of line
feeds in front of the first character of a segment, plus one.
-/

namespace LoxLexer

/-- The line of the character behind a text. -/
def lineBehind (text : Text) : Nat :=
  1 + text.countP Character.isLineFeed

theorem lineBehind_append (before : Text) (segment : Segment) :
    lineBehind (before ++ segment.text) = lineBehind before + segment.lineFeeds := by
  simp [lineBehind, Segment.lineFeeds, List.countP_append, Nat.add_assoc]

/-! ## What a segment gives on a line -/

namespace Segment

/-- The token of a segment that begins on `line`. -/
def token? (line : Nat) : Segment → Option Token
  | symbol mark => some ⟨.symbol mark, mark.spelling, .absent, line⟩
  | word letters => some ⟨Kind.ofWord letters, letters, .absent, line⟩
  | number numeral => some ⟨.number, numeral.text, .number numeral.nearest, line⟩
  | string body => some ⟨.string, '"' :: body ++ ['"'], .text body, line⟩
  | _ => none

/-- The fault of a segment that begins on `line`. -/
def fault? (line : Nat) : Segment → Option LocatedFault
  | stray character => some ⟨line, .unexpectedCharacter character⟩
  | openString _ => some ⟨line, .unterminatedString⟩
  | _ => none

theorem bind_token?_event? (line : Nat) (segment : Segment) :
    (segment.event? line).bind Event.token? = segment.token? line := by
  cases segment <;> rfl

theorem bind_fault?_event? (line : Nat) (segment : Segment) :
    (segment.event? line).bind Event.fault? = segment.fault? line := by
  cases segment <;> rfl

end Segment

/-! ## Segments in their places -/

/-- A segment and the text in front of it. -/
structure Placement where
  before : Text
  segment : Segment
  deriving DecidableEq, Repr

def Placement.event? (placed : Placement) : Option Event :=
  placed.segment.event? (lineBehind placed.before)

/-- A row of segments in their places behind `before`. -/
def place (before : Text) : List Segment → List Placement
  | [] => []
  | segment :: rest => ⟨before, segment⟩ :: place (before ++ segment.text) rest

def placements (source : Text) : List Placement :=
  place [] (segments source)

theorem map_segment_place (before : Text) (row : List Segment) :
    (place before row).map Placement.segment = row := by
  induction row generalizing before with
  | nil =>
      rfl
  | cons segment rest induction =>
      rw [place, List.map_cons, induction]

theorem prefix_of_mem_place
    {before : Text} {row : List Segment} {placed : Placement}
    (member : placed ∈ place before row) :
    placed.before ++ placed.segment.text <+:
      before ++ row.flatMap Segment.text := by
  induction row generalizing before with
  | nil =>
      cases member
  | cons segment rest induction =>
      rw [List.flatMap_cons, ← List.append_assoc]
      rcases List.mem_cons.mp member with rfl | later
      · exact List.prefix_append _ _
      · exact induction later

/-! ## Lines of a whole scan -/

theorem events_ofSegments (before : Text) (row : List Segment) :
    (Scan.ofSegments (lineBehind before) row).events =
      (place before row).filterMap Placement.event? := by
  induction row generalizing before with
  | nil =>
      rfl
  | cons segment rest induction =>
      have here : Placement.event? ⟨before, segment⟩ =
          segment.event? (lineBehind before) := rfl
      simp only [Scan.ofSegments, place, List.filterMap_cons, here]
      rw [← lineBehind_append, induction]
      cases segment.event? (lineBehind before) <;> rfl

theorem lastLine_ofSegments (before : Text) (row : List Segment) :
    (Scan.ofSegments (lineBehind before) row).lastLine =
      lineBehind (before ++ row.flatMap Segment.text) := by
  induction row generalizing before with
  | nil =>
      simp [Scan.ofSegments]
  | cons segment rest induction =>
      rw [Scan.ofSegments, ← lineBehind_append, induction, List.flatMap_cons,
        List.append_assoc]

/-- A scan ends on the line that all line feeds of its source text lead to. -/
theorem lastLine_scan (source : Text) :
    (scan source).lastLine = 1 + source.countP Character.isLineFeed := by
  have ended := lastLine_ofSegments [] (segments source)
  rw [List.nil_append, flatMap_text_segments] at ended
  rw [scan_eq_ofSegments]
  exact ended

/-- Tokens and faults carry the line of their first character, which is one plus
the number of line feeds in front of it, and the token for the end of the input
carries one plus the number of all line feeds. -/
theorem scan_counts_line_feeds (source : Text) :
    (placements source).map (fun placed => placed.segment.text) =
        (Scanner.ofText source).pieces ∧
      (∀ placed ∈ placements source,
        placed.before ++ placed.segment.text <+: source) ∧
      (scan source).tokens =
        ((placements source).filterMap fun placed =>
          placed.segment.token? (1 + placed.before.countP Character.isLineFeed)) ++
          [⟨.endOfInput, [], .absent, 1 + source.countP Character.isLineFeed⟩] ∧
      (scan source).faults =
        (placements source).filterMap fun placed =>
          placed.segment.fault? (1 + placed.before.countP Character.isLineFeed) := by
  have events := events_ofSegments [] (segments source)
  have firstLine : lineBehind [] = 1 := rfl
  rw [firstLine] at events
  refine ⟨?pieces, ?front, ?tokens, ?faults⟩
  case pieces =>
    rw [Scanner.pieces_eq, Scanner.remaining_ofText,
      ← map_segment_place [] (segments source), List.map_map]
    rfl
  case front =>
    intro placed member
    have front := prefix_of_mem_place member
    rwa [List.nil_append, flatMap_text_segments] at front
  case tokens =>
    rw [Scan.tokens, lastLine_scan, scan_eq_ofSegments, events, List.filterMap_filterMap]
    simp only [Placement.event?, Segment.bind_token?_event?]
    rfl
  case faults =>
    rw [scan_eq_ofSegments, Scan.faults, events, List.filterMap_filterMap]
    simp only [Placement.event?, Segment.bind_fault?_event?]
    rfl

end LoxLexer
