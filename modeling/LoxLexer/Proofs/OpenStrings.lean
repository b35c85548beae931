import LoxLexer.Proofs.Comments
import LoxLexer.Proofs.LineBoundary
import LoxLexer.Proofs.Offence

/-!
# A quote behind a text

A quote behind a text shows what the text ends in.  It closes a string that is left open
there, it is one more character of a comment, or else it opens a string.
-/

namespace LoxLexer

/-- The last piece that the scanner takes of a text is a comment. -/
def EndsInComment (source : Text) : Prop :=
  ∃ piece ∈ (Scanner.ofText source).pieces.getLast?, IsComment piece

instance decidableEndsInComment (source : Text) : Decidable (EndsInComment source) :=
  inferInstanceAs (Decidable (∃ piece ∈ (Scanner.ofText source).pieces.getLast?, IsComment piece))

/-! ## The last segment of a row -/

section Last

variable {before : List Segment} {last extended : Segment} {body : Text}

/-- The last segment of a row can take in what is put behind the text. -/
theorem RowFits.extend
    (fits : RowFits (before ++ [last])) (fitsExtended : RowFits [extended]) {more : Text}
    (written : extended.text = last.text ++ more) (notPoint : last.text ≠ ['.']) :
    RowFits (before ++ [extended]) := by
  apply fits.exchange fitsExtended
  intro segment _ rest ends
  rw [List.flatMap_singleton] at ends ⊢
  have present := fits.tail.1.1.text_ne_nil
  rw [written, ← List.append_assoc]
  apply ends.append (List.append_ne_nil_of_right_ne_nil rest present)
  intro numeral _ onlyPoint
  rcases List.append_eq_singleton_iff.mp onlyPoint with ⟨_, point⟩ | ⟨_, nothing⟩
  · exact notPoint point
  · exact present nothing

/-- A row with an open string in it ends with that. -/
theorem RowFits.exists_last_openString
    {row : List Segment} (fits : RowFits row)
    (isOpen : ∃ segment ∈ row, segment.segmentClass = .openString) :
    ∃ before body, row = before ++ [.openString body] := by
  obtain ⟨segment, member, category⟩ := isOpen
  obtain ⟨before, after, rfl⟩ := List.append_of_mem member
  cases segment with
  | openString body =>
      cases after with
      | nil =>
          exact ⟨before, body, rfl⟩
      | cons next others =>
          rw [← List.singleton_append, ← List.append_assoc] at fits
          exact absurd category (fits.closed (List.cons_ne_nil next others) _ (by simp))
  | _ =>
      cases category

/-- Behind anything but a comment or an open string, a quote opens a string. -/
theorem RowFits.append_openString
    {row : List Segment} (fits : RowFits row)
    (closed : ∀ segment ∈ row, segment.segmentClass ≠ .openString)
    (last : ∀ segment ∈ row.getLast?, segment.segmentClass ≠ .comment) :
    RowFits (row ++ [.openString []]) := by
  induction row with
  | nil =>
      exact ⟨⟨List.not_mem_nil, rfl⟩, trivial⟩
  | cons segment rest induction =>
      have stops : ∀ character ∈ ['"'].head?, Character.continuesToken character = false := by
        rintro character ⟨⟩
        rfl
      have noMore := OffersNoMore.append stops (rest.flatMap Segment.text) []
      rw [List.append_nil] at noMore
      have closedRest : ∀ later ∈ rest, later.segmentClass ≠ .openString :=
        fun later member => closed later (List.mem_cons_of_mem segment member)
      rw [List.cons_append]
      refine ⟨⟨fits.1.1, ?_⟩, induction fits.2 closedRest ?_⟩
      · rw [List.flatMap_append]
        apply fits.1.2.exchange noMore
        · rintro body rfl character found
          cases rest with
          | nil =>
              exact absurd rfl (last _ rfl)
          | cons next others =>
              rw [List.head?_append_of_ne_nil] at found
              · exact fits.1.2 character found
              · exact List.append_ne_nil_of_left_ne_nil fits.2.1.1.text_ne_nil _
        · rintro body rfl
          exact absurd rfl (closed _ (List.mem_cons_self ..))
      · intro later found
        exact last later (List.mem_getLast?_cons found)

end Last

/-! ## The segments of a text with a quote behind it -/

section Quote

variable {source : Text} {before : List Segment} {body : Text}

theorem segments_append_quote_of_openString
    (divided : segments source = before ++ [.openString body]) :
    segments (source ++ ['"']) = before ++ [.string body] := by
  obtain ⟨text, fits⟩ := segments_eq_iff.mp divided
  have unquoted : '"' ∉ body := fits.tail.1.1
  rw [segments_eq_iff]
  constructor
  · rw [← text]
    simp [Segment.text]
  · have closed : RowFits [.string body] := ⟨⟨unquoted, trivial⟩, trivial⟩
    exact fits.extend closed rfl (by simp [Segment.text])

theorem segments_append_quote_of_comment
    (divided : segments source = before ++ [.comment body]) :
    segments (source ++ ['"']) = before ++ [.comment (body ++ ['"'])] := by
  obtain ⟨text, fits⟩ := segments_eq_iff.mp divided
  have unbroken : '\n' ∉ body := fits.tail.1.1
  rw [segments_eq_iff]
  constructor
  · rw [← text]
    simp [Segment.text]
  · have extended : RowFits [.comment (body ++ ['"'])] :=
      ⟨⟨by simpa [Segment.WellFormed] using unbroken, by simp [Segment.EndsBefore]⟩, trivial⟩
    exact fits.extend extended rfl (by simp [Segment.text])

theorem segments_append_quote
    (closed : ∀ segment ∈ segments source, segment.segmentClass ≠ .openString)
    (last : ∀ segment ∈ (segments source).getLast?, segment.segmentClass ≠ .comment) :
    segments (source ++ ['"']) = segments source ++ [.openString []] := by
  rw [segments_eq_iff]
  constructor
  · rw [List.flatMap_append, flatMap_text_segments]
    rfl
  · exact (rowFits_segments source).append_openString closed last

end Quote

/-! ## Scans -/

section Scans

variable {source : Text} {before : List Segment} {body : Text}

/-- The quote of an open string at the end is to blame for the last fault. -/
theorem offence_of_openString
    (divided : segments source = before ++ [.openString body]) :
    Offence source ⟨(Scan.ofSegments 1 before).lastLine, .unterminatedString⟩
      (before.flatMap Segment.text) '"' body := by
  obtain ⟨text, fits⟩ := segments_eq_iff.mp divided
  have division : source = before.flatMap Segment.text ++ '"' :: body := by
    rw [← text]
    simp [Segment.text]
  have line : (Scan.ofSegments 1 before).lastLine = lineBehind (before.flatMap Segment.text) :=
    lastLine_ofSegments [] before
  have start : segments (Scanner.ofText source).remaining = before ++ [.openString body] := by
    rw [Scanner.remaining_ofText, divided]
  obtain ⟨scanner, reached, place, ended⟩ := Scanner.Reached.exists_later .initial start
  have here : scanner.current = (before.flatMap Segment.text).length := by
    rw [place]
    exact Nat.zero_add _
  have sees : scanner.remaining = '"' :: body := by
    rw [reached.remaining_eq, here, division, List.drop_left]
  have inside := Scanner.atEnd_of_remaining sees
  refine ⟨division, ⟨scanner, inside, reached, here, ?_⟩, .inr ⟨rfl, rfl⟩, line⟩
  have next : (Segment.next '"' body).1 = .openString body := by
    rw [sees, segments_cons] at ended
    exact (List.cons.inj ended).1
  have counted : scanner.line = (Scan.ofSegments 1 before).lastLine := by
    rw [reached.line_eq, here, division, List.take_left, line]
  rw [Scanner.faults_scanSegment sees, next, counted]
  rfl

theorem endsInComment_iff :
    EndsInComment source ↔ ∃ before body, segments source = before ++ [.comment body] := by
  rw [EndsInComment, Scanner.pieces_eq, Scanner.remaining_ofText, List.getLast?_map]
  constructor
  · rintro ⟨piece, found, isComment⟩
    obtain ⟨segment, isLast, rfl⟩ := Option.map_eq_some_iff.mp found
    obtain ⟨before, divided⟩ := List.getLast?_eq_some_iff.mp isLast
    have fits := rowFits_segments source
    rw [divided] at fits
    obtain ⟨body, rfl⟩ :=
      Segment.eq_comment_of_segmentClass (fits.tail.1.isComment_text_iff.mp isComment)
    exact ⟨before, body, divided⟩
  · rintro ⟨before, body, divided⟩
    have fits := rowFits_segments source
    rw [divided] at fits ⊢
    exact ⟨_, by simp, fits.tail.1.isComment_text_iff.mpr rfl⟩

/-- A comment at the end takes the quote in. -/
theorem scan_append_quote_of_comment (ends : EndsInComment source) :
    scan (source ++ ['"']) = scan source := by
  obtain ⟨before, body, divided⟩ := endsInComment_iff.mp ends
  have extended := segments_append_quote_of_comment divided
  have without (body : Text) : uncommented (before ++ [.comment body]) = uncommented before := by
    simp [uncommented, Segment.segmentClass]
  rw [scan_eq_ofSegments, ← ofSegments_uncommented (rowFits_segments _), extended, without,
    scan_eq_ofSegments, ← ofSegments_uncommented (rowFits_segments _), divided, without]

/-- Behind anything else the quote is a fault of its own. -/
theorem scan_append_quote_of_closed
    (closed : ∀ segment ∈ segments source, segment.segmentClass ≠ .openString)
    (ends : ¬ EndsInComment source) :
    (scan (source ++ ['"'])).tokens = (scan source).tokens ∧
      (scan (source ++ ['"'])).faults =
        (scan source).faults ++ [⟨(scan source).lastLine, .unterminatedString⟩] := by
  have last : ∀ segment ∈ (segments source).getLast?, segment.segmentClass ≠ .comment := by
    intro segment isLast category
    obtain ⟨body, rfl⟩ := Segment.eq_comment_of_segmentClass category
    obtain ⟨before, divided⟩ := List.getLast?_eq_some_iff.mp isLast
    exact ends (endsInComment_iff.mpr ⟨before, body, divided⟩)
  rw [scan_eq_ofSegments, segments_append_quote closed last, Scan.tokens_ofSegments_append,
    Scan.faults_ofSegments_append, scan_eq_ofSegments]
  exact ⟨rfl, rfl⟩

/-- An open string is closed, on the line on which it was reported. -/
theorem scan_append_quote_of_openString
    (divided : segments source = before ++ [.openString body]) :
    (scan source).tokens =
        (Scan.ofSegments 1 before).events.filterMap Event.token? ++
          [⟨.endOfInput, [], .absent, (scan source).lastLine⟩] ∧
      (scan source).faults = (Scan.ofSegments 1 before).faults ++
        [⟨(Scan.ofSegments 1 before).lastLine, .unterminatedString⟩] ∧
      (scan (source ++ ['"'])).tokens =
        (Scan.ofSegments 1 before).events.filterMap Event.token? ++
          [⟨.string, '"' :: body ++ ['"'], .text body, (Scan.ofSegments 1 before).lastLine⟩,
            ⟨.endOfInput, [], .absent, (scan source).lastLine⟩] ∧
      (scan (source ++ ['"'])).faults = (Scan.ofSegments 1 before).faults := by
  have lineFeeds : (Segment.openString body).lineFeeds = (Segment.string body).lineFeeds := by
    rw [Segment.lineFeeds_openString, Segment.lineFeeds_string]
  rw [scan_eq_ofSegments, scan_eq_ofSegments, segments_append_quote_of_openString divided, divided,
    Scan.lastLine_ofSegments_append, Scan.tokens_ofSegments_append, Scan.tokens_ofSegments_append,
    Scan.faults_ofSegments_append, Scan.faults_ofSegments_append]
  refine ⟨rfl, rfl, ?_, List.append_nil _⟩
  simp only [Scan.ofSegments, lineFeeds]
  rfl

end Scans

/-- A quote behind a text closes the string that is left open in it: the fault, which was
the last one, is gone, and a token with all that stands behind the opening quote takes its
place.  Where no string is left open, the quote itself opens one on the last line, but for
a comment that takes it in. -/
theorem scan_append_quote (source : Text) :
    ∃ found lastLine,
      (scan source).tokens = found ++ [⟨.endOfInput, [], .absent, lastLine⟩] ∧
      ((∃ located ∈ (scan source).faults, located.fault = .unterminatedString) →
        ∃ sound line before body,
          (scan source).faults = sound ++ [⟨line, .unterminatedString⟩] ∧
          (∀ located ∈ sound, located.fault ≠ .unterminatedString) ∧
          Offence source ⟨line, .unterminatedString⟩ before '"' body ∧
          (scan (source ++ ['"'])).tokens =
            found ++ [⟨.string, '"' :: body ++ ['"'], .text body, line⟩,
              ⟨.endOfInput, [], .absent, lastLine⟩] ∧
          (scan (source ++ ['"'])).faults = sound) ∧
      ((∀ located ∈ (scan source).faults, located.fault ≠ .unterminatedString) →
        (scan (source ++ ['"'])).tokens = (scan source).tokens ∧
        (scan (source ++ ['"'])).faults =
          (scan source).faults ++
            if EndsInComment source then [] else [⟨lastLine, .unterminatedString⟩]) := by
  refine ⟨_, _, rfl, fun isOpen => ?closes, fun closed => ?opens⟩
  case closes =>
    rw [scan_eq_ofSegments, exists_unterminated_iff] at isOpen
    have fits := rowFits_segments source
    obtain ⟨before, body, divided⟩ := fits.exists_last_openString isOpen
    rw [divided] at fits
    obtain ⟨tokens, faults, tokensQuote, faultsQuote⟩ := scan_append_quote_of_openString divided
    refine ⟨(Scan.ofSegments 1 before).faults, _, _, body, faults, ?_,
      offence_of_openString divided, ?_, faultsQuote⟩
    · intro located member same
      obtain ⟨segment, inRow, category⟩ := exists_unterminated_iff.mp ⟨located, member, same⟩
      exact fits.closed (List.cons_ne_nil _ []) segment inRow category
    · rw [tokensQuote, List.append_cancel_right tokens]
  case opens =>
    have noString : ∀ segment ∈ segments source, segment.segmentClass ≠ .openString :=
      closed_of_faults closed
    by_cases inComment : EndsInComment source
    · rw [if_pos inComment, List.append_nil, scan_append_quote_of_comment inComment]
      exact ⟨rfl, rfl⟩
    · rw [if_neg inComment]
      exact scan_append_quote_of_closed noString inComment

/-- A string with a comment's slashes and a line feed in it, and a comment with a quote. -/
theorem scan_append_quote_slashes :
    (∃ located ∈ (scan "@ // \"\n\"a\n// b".toList).faults,
        located.fault = .unterminatedString) ∧
      (∃ sound line,
        (scan "@ // \"\n\"a\n// b".toList).faults =
          sound ++ [⟨line, .unterminatedString⟩] ∧
        (scan ("@ // \"\n\"a\n// b".toList ++ ['"'])).faults = sound) ∧
      (∀ located ∈ (scan "1. // \"".toList).faults,
        located.fault ≠ .unterminatedString) ∧
      (scan ("1. // \"".toList ++ ['"'])).tokens = (scan "1. // \"".toList).tokens := by
  have isOpen : ∃ located ∈ (scan "@ // \"\n\"a\n// b".toList).faults,
      located.fault = .unterminatedString := by
    decide +kernel
  have closed : ∀ located ∈ (scan "1. // \"".toList).faults,
      located.fault ≠ .unterminatedString := by
    decide +kernel
  obtain ⟨_, _, _, closes, _⟩ := scan_append_quote "@ // \"\n\"a\n// b".toList
  obtain ⟨sound, line, _, _, reported, _, _, _, gone⟩ := closes isOpen
  obtain ⟨_, _, _, _, opens⟩ := scan_append_quote "1. // \"".toList
  exact ⟨isOpen, ⟨sound, line, reported, gone⟩, closed, (opens closed).1⟩

end LoxLexer
