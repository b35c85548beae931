import LoxLexer.Proofs.Lookahead
import LoxLexer.Proofs.Raising
import LoxLexer.Proofs.Separation

/-!
# Line feeds as boundaries

A line feed ends whatever segment stands in front of it, but for a string that is
still open.  So a text in front of a line feed is scanned as if it stood alone,
and the text behind as if it began there, on a later line.
-/

namespace LoxLexer

/-! ## What a line feed ends -/

/-- What ends in front of a text ends there as well when a line feed and more
follow, even where that text is empty. -/
theorem Segment.EndsBefore.append_lineFeed
    {segment : Segment} {rest : Text} (ends : segment.EndsBefore rest)
    (closed : segment.segmentClass ≠ .openString) (more : Text) :
    segment.EndsBefore (rest ++ '\n' :: more) := by
  have stops : ∀ character ∈ ('\n' :: more).head?,
      Character.continuesToken character = false := by
    rintro character ⟨⟩
    rfl
  have noMore : OffersNoMore (rest ++ '\n' :: more) rest := by
    simpa using OffersNoMore.append stops rest []
  apply ends.exchange noMore
  · rintro body rfl character found
    cases rest with
    | nil => exact (Option.some.inj found).symm
    | cons first tail => exact ends character found
  · rintro body rfl
    exact absurd rfl closed

/-! ## Rows in front of a line feed -/

/-- A row goes on fitting if what follows it is exchanged for something in front
of which its segments end as well. -/
theorem RowFits.exchange
    {before after other : List Segment}
    (fits : RowFits (before ++ after)) (fitsOther : RowFits other)
    (ends : ∀ segment ∈ before, ∀ rest : Text,
      segment.EndsBefore (rest ++ after.flatMap Segment.text) →
        segment.EndsBefore (rest ++ other.flatMap Segment.text)) :
    RowFits (before ++ other) := by
  induction before with
  | nil =>
      exact fitsOther
  | cons segment rest induction =>
      rw [List.cons_append] at fits ⊢
      obtain ⟨⟨formed, endsHere⟩, fitsRest⟩ := fits
      rw [List.flatMap_append] at endsHere
      have endsOther := ends segment (List.mem_cons_self ..) _ endsHere
      rw [← List.flatMap_append] at endsOther
      refine ⟨⟨formed, endsOther⟩, induction fitsRest ?_⟩
      intro later member
      exact ends later (List.mem_cons_of_mem segment member)

/-- Only the last segment of a row can be an open string. -/
theorem RowFits.closed
    {before after : List Segment} (fits : RowFits (before ++ after)) (present : after ≠ []) :
    ∀ segment ∈ before, segment.segmentClass ≠ .openString := by
  intro segment member category
  obtain ⟨front, back, rfl⟩ := List.append_of_mem member
  rw [List.append_assoc, List.cons_append] at fits
  have ends := fits.tail.1.2
  cases segment with
  | openString body =>
      have ended : (back ++ after).flatMap Segment.text = [] := ends
      have nothing : back ++ after = [] := by
        rw [← segments_flatMap_text fits.tail.2, ended, segments_nil]
      exact present (List.append_eq_nil_iff.mp nothing).2
  | _ =>
      cases category

theorem segments_append_lineFeed
    {before : Text} (after : Text)
    (closed : ∀ segment ∈ segments before, segment.segmentClass ≠ .openString) :
    segments (before ++ '\n' :: after) =
      segments before ++ .blank '\n' :: segments after := by
  have fitsBefore : RowFits (segments before ++ []) := by
    rw [List.append_nil]
    exact rowFits_segments before
  have fitsAfter : RowFits (.blank '\n' :: segments after) :=
    ⟨⟨rfl, trivial⟩, rowFits_segments after⟩
  rw [segments_eq_iff]
  constructor
  · rw [List.flatMap_append, List.flatMap_cons, flatMap_text_segments,
      flatMap_text_segments]
    rfl
  · apply fitsBefore.exchange fitsAfter
    intro segment member rest ends
    rw [List.flatMap_nil, List.append_nil] at ends
    rw [List.flatMap_cons, flatMap_text_segments]
    exact ends.append_lineFeed (closed segment member) after

/-- A string is reported as unterminated just where one is left open. -/
theorem exists_unterminated_iff {line : Nat} {row : List Segment} :
    (∃ located ∈ (Scan.ofSegments line row).faults, located.fault = .unterminatedString) ↔
      ∃ segment ∈ row, segment.segmentClass = .openString := by
  rw [← List.mem_map, Scan.faults, faults_of_segments, stretches, List.filterMap_map,
    List.mem_filterMap]
  refine exists_congr fun segment => and_congr_right fun _ => ?_
  cases segment <;> simp [Segment.segmentClass, SegmentClass.fault?, Segment.text]

theorem closed_of_faults
    {source : Text}
    (closed : ∀ located ∈ (scan source).faults, located.fault ≠ .unterminatedString) :
    ∀ segment ∈ segments source, segment.segmentClass ≠ .openString := by
  rw [scan_eq_ofSegments] at closed
  intro segment member isOpen
  obtain ⟨located, reported, same⟩ := exists_unterminated_iff.mpr ⟨segment, member, isOpen⟩
  exact closed located reported same

/-! ## Two texts with a line feed between them -/

theorem Scan.ofSegments_lineFeed (line : Nat) (source : Text) :
    ofSegments line (.blank '\n' :: segments source) = (scan source).raise line := by
  rw [scan_eq_ofSegments, ← ofSegments_add, Nat.add_comm]
  rfl

/-- Unless a string is left open in front of it, a line feed divides a scan: the
tokens and faults in front are those of the text in front, and the ones behind
are those of the text behind, their lines raised by the line on which the text
in front ends. -/
theorem scan_append_lineFeed (before after : Text)
    (closed : ∀ located ∈ (scan before).faults,
      located.fault ≠ .unterminatedString) :
    ∃ found lastLine,
      (scan before).tokens = found ++ [⟨.endOfInput, [], .absent, lastLine⟩] ∧
      (scan (before ++ '\n' :: after)).tokens =
        found ++ (scan after).tokens.map (Token.raise lastLine) ∧
      (scan (before ++ '\n' :: after)).faults =
        (scan before).faults ++
          (scan after).faults.map (LocatedFault.raise lastLine) := by
  have divided := segments_append_lineFeed after (closed_of_faults closed)
  rw [scan_eq_ofSegments before, scan_eq_ofSegments (before ++ '\n' :: after)]
  refine ⟨_, _, rfl, ?_, ?_⟩
  · rw [divided, Scan.tokens_ofSegments_append, Scan.ofSegments_lineFeed,
      Scan.tokens_raise]
  · rw [divided, Scan.faults_ofSegments_append, Scan.ofSegments_lineFeed,
      Scan.faults_raise]

/-- A slash in front of a line feed makes no comment with one behind it, and a
point there makes no fraction. -/
theorem scan_append_lineFeed_slash :
    (∀ located ∈ (scan "@ 1./".toList).faults,
        located.fault ≠ .unterminatedString) ∧
      ∃ found lastLine,
        (scan "@ 1./".toList).tokens =
          found ++ [⟨.endOfInput, [], .absent, lastLine⟩] ∧
        (scan ("@ 1./".toList ++ '\n' :: "/2 \"b\n@".toList)).tokens =
          found ++ (scan "/2 \"b\n@".toList).tokens.map (Token.raise lastLine) ∧
        (scan ("@ 1./".toList ++ '\n' :: "/2 \"b\n@".toList)).faults =
          (scan "@ 1./".toList).faults ++
            (scan "/2 \"b\n@".toList).faults.map (LocatedFault.raise lastLine) := by
  have closed : ∀ located ∈ (scan "@ 1./".toList).faults,
      located.fault ≠ .unterminatedString := by
    decide +kernel
  exact ⟨closed, scan_append_lineFeed "@ 1./".toList "/2 \"b\n@".toList closed⟩

end LoxLexer
