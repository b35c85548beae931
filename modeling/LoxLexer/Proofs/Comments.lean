import LoxLexer.Proofs.Blanks
import LoxLexer.Proofs.LineEndings

/-!
# Comments contribute nothing

What stands behind a comment is a line feed, or else the end of the text.  Neither of
them continues a token, so what stands in front of the comment ends as it did when the
comment is taken out, and no new comment arises.
-/

namespace LoxLexer

/-! ## Segments that are comments -/

/-- A segment is a comment just where it is written as one. -/
theorem Segment.Fits.isComment_text_iff
    {segment : Segment} {rest : Text} (fits : segment.Fits rest) :
    IsComment segment.text ↔ segment.segmentClass = .comment := by
  constructor
  · intro isComment
    have admits : SegmentClass.comment.Admits segment.text [] := ⟨isComment, by simp⟩
    rw [fits.admits.eq_ofText, ← admits.eq_ofText]
  · intro category
    have admits := fits.admits
    rw [category] at admits
    exact admits.1

/-- A row of segments without the comments in it. -/
def uncommented (row : List Segment) : List Segment :=
  row.filter fun segment => segment.segmentClass ≠ .comment

theorem uncommented_comment (body : Text) (rest : List Segment) :
    uncommented (.comment body :: rest) = uncommented rest :=
  List.filter_cons_of_neg (by simp [Segment.segmentClass])

theorem uncommented_cons
    {segment : Segment} (kept : segment.segmentClass ≠ .comment) (rest : List Segment) :
    uncommented (segment :: rest) = segment :: uncommented rest :=
  List.filter_cons_of_pos (by simpa using kept)

theorem Segment.eq_comment_of_segmentClass
    {segment : Segment} (category : segment.segmentClass = .comment) :
    ∃ body, segment = .comment body := by
  cases segment with
  | comment body => exact ⟨body, rfl⟩
  | _ => cases category

/-! ## Rows without comments -/

section Row

variable {row : List Segment} (fits : RowFits row)

include fits

/-- Wherever comments are taken out behind a text, nothing comes up that continues a
token. -/
theorem offersNoMore_uncommented (front : Text) :
    OffersNoMore (front ++ (uncommented row).flatMap Segment.text)
      (front ++ row.flatMap Segment.text) := by
  induction row generalizing front with
  | nil =>
      exact ⟨fun _ found _ => found, id⟩
  | cons segment rest induction =>
      by_cases category : segment.segmentClass = .comment
      · obtain ⟨body, rfl⟩ := Segment.eq_comment_of_segmentClass category
        rw [uncommented_comment]
        apply OffersNoMore.append
        rcases fits.1.2.row_eq fits.2 with rfl | ⟨behind, rfl⟩
        · simp [uncommented]
        · rw [uncommented_cons (by simp [Segment.segmentClass])]
          rintro character ⟨⟩
          rfl
      · have later := induction fits.2 (front ++ segment.text)
        rw [uncommented_cons category, List.flatMap_cons, List.flatMap_cons,
          ← List.append_assoc, ← List.append_assoc]
        exact later

theorem rowFits_uncommented :
    RowFits (uncommented row) := by
  induction row with
  | nil =>
      exact fits
  | cons segment rest induction =>
      by_cases category : segment.segmentClass = .comment
      · obtain ⟨body, rfl⟩ := Segment.eq_comment_of_segmentClass category
        rw [uncommented_comment]
        exact induction fits.2
      · rw [uncommented_cons category]
        refine ⟨⟨fits.1.1, ?_⟩, induction fits.2⟩
        apply fits.1.2.exchange
        · exact offersNoMore_uncommented fits.2 []
        · rintro body rfl
          exact absurd rfl category
        · rintro body rfl
          have ended : rest.flatMap Segment.text = [] := fits.1.2
          have alone : rest = [] := by
            rw [← segments_flatMap_text fits.2, ended, segments_nil]
          rw [alone]
          rfl

theorem ofSegments_uncommented (line : Nat) :
    Scan.ofSegments line (uncommented row) = Scan.ofSegments line row := by
  induction row generalizing line with
  | nil =>
      rfl
  | cons segment rest induction =>
      by_cases category : segment.segmentClass = .comment
      · obtain ⟨body, rfl⟩ := Segment.eq_comment_of_segmentClass category
        rw [uncommented_comment, Scan.ofSegments_comment fits.1.1, induction fits.2]
      · rw [uncommented_cons category, Scan.ofSegments, Scan.ofSegments, induction fits.2]

end Row

/-! ## Texts without comments -/

/-- The pieces that the scanner takes of a text, but for the comments among them. -/
def withoutComments (source : Text) : Text :=
  ((Scanner.ofText source).pieces.filter fun piece => ¬ IsComment piece).flatten

theorem filter_pieces (source : Text) :
    ((Scanner.ofText source).pieces.filter fun piece => ¬ IsComment piece) =
      (uncommented (segments source)).map Segment.text := by
  rw [Scanner.pieces_eq, Scanner.remaining_ofText, List.filter_map, uncommented]
  congr 1
  apply List.filter_congr
  intro segment member
  obtain ⟨before, after, divided⟩ := List.append_of_mem member
  have fits := rowFits_segments source
  rw [divided] at fits
  simp [fits.tail.1.isComment_text_iff]

theorem segments_withoutComments (source : Text) :
    segments (withoutComments source) = uncommented (segments source) := by
  rw [withoutComments, filter_pieces, ← List.flatMap_def]
  exact segments_flatMap_text (rowFits_uncommented (rowFits_segments source))

/-- A text whose comments are deleted has the same scan: tokens, faults and the lines of
both are the same, and the line on which the text ends.  The scanner takes the same
pieces as before, but for the comments; what begins with a quote is none of these, be it
closed or not. -/
theorem scan_withoutComments (source : Text) :
    scan (withoutComments source) = scan source ∧
      (Scanner.ofText (withoutComments source)).pieces =
        (Scanner.ofText source).pieces.filter (fun piece => ¬ IsComment piece) ∧
      ∀ piece ∈ (Scanner.ofText source).pieces, piece.head? = some '"' →
        piece ∈ (Scanner.ofText (withoutComments source)).pieces := by
  have pieces : (Scanner.ofText (withoutComments source)).pieces =
      (Scanner.ofText source).pieces.filter (fun piece => ¬ IsComment piece) := by
    rw [Scanner.pieces_eq, Scanner.remaining_ofText, segments_withoutComments, filter_pieces]
  refine ⟨?_, pieces, fun piece member quoted => ?_⟩
  · rw [scan_eq_ofSegments, segments_withoutComments,
      ofSegments_uncommented (rowFits_segments source), scan_eq_ofSegments]
  · have noComment : ¬ IsComment piece := by
      rintro ⟨body, _, rfl⟩
      cases quoted
    rw [pieces, List.mem_filter]
    exact ⟨member, decide_eq_true noComment⟩

/-- Two slashes in a string that is never closed, behind a number and a point that a
comment keeps from a digit. -/
theorem scan_withoutComments_open_string :
    ("\"//1".toList ∈ (Scanner.ofText "1.// 2\n5 \"//1".toList).pieces ∧
        "\"//1".toList.head? = some '"') ∧
      scan (withoutComments "1.// 2\n5 \"//1".toList) = scan "1.// 2\n5 \"//1".toList ∧
      "\"//1".toList ∈
        (Scanner.ofText (withoutComments "1.// 2\n5 \"//1".toList)).pieces := by
  have member : "\"//1".toList ∈ (Scanner.ofText "1.// 2\n5 \"//1".toList).pieces := by
    decide +kernel
  obtain ⟨same, _, kept⟩ := scan_withoutComments "1.// 2\n5 \"//1".toList
  exact ⟨⟨member, rfl⟩, same, kept _ member rfl⟩

end LoxLexer
