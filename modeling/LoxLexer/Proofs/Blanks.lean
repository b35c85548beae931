import LoxLexer.Proofs.Lookahead
import LoxLexer.Proofs.Raising
import LoxLexer.Proofs.Separation

/-!
# Blanks between segments

Blanks that are put between two segments are blanks there too, but for what a
comment in front takes in, or an open string.  Either way they leave no trace
but the line feeds in them.
-/

namespace LoxLexer

/-! ## The scan of blanks -/

theorem Segment.lineFeeds_blank (character : Char) :
    (blank character).lineFeeds = if Character.isLineFeed character then 1 else 0 := by
  rw [lineFeeds, text, List.countP_singleton]

theorem Scan.ofSegments_blanks (line : Nat) (text : Text) (row : List Segment) :
    ofSegments line (text.map Segment.blank ++ row) =
      ofSegments (line + text.countP Character.isLineFeed) row := by
  induction text generalizing line with
  | nil =>
      rfl
  | cons character rest induction =>
      have passed : ofSegments line ((character :: rest).map Segment.blank ++ row) =
          ofSegments (line + (Segment.blank character).lineFeeds)
            (rest.map Segment.blank ++ row) :=
        rfl
      have further : line + (Segment.blank character).lineFeeds +
            rest.countP Character.isLineFeed =
          line + (character :: rest).countP Character.isLineFeed := by
        rw [List.countP_cons, Segment.lineFeeds_blank]
        omega
      rw [passed, induction, further]

/-- A comment is scanned like a blank, whatever its characters are. -/
theorem Scan.ofSegments_comment
    {body : Text} (unbroken : '\n' ∉ body) (line : Nat) (row : List Segment) :
    ofSegments line (.comment body :: row) = ofSegments line row := by
  have passed : ofSegments line (.comment body :: row) =
      ofSegments (line + (Segment.comment body).lineFeeds) row :=
    rfl
  rw [passed, Segment.lineFeeds_comment unbroken, Nat.add_zero]

/-! ## Rows with blanks put in -/

/-- A row that is written as two others with blanks between them, and scanned as
if they were blanks. -/
structure Spaced (before : List Segment) (gap : Text) (after row : List Segment) :
    Prop where
  fits : RowFits row
  text : row.flatMap Segment.text =
    before.flatMap Segment.text ++ (gap ++ after.flatMap Segment.text)
  scan : ∀ line, Scan.ofSegments line row =
    Scan.ofSegments line (before ++ (gap.map Segment.blank ++ after))

theorem flatMap_text_map_blank (gap : Text) :
    (gap.map Segment.blank).flatMap Segment.text = gap := by
  simp [List.flatMap_map, Segment.text]

theorem exists_unbroken_front (text : Text) :
    ∃ front back, text = front ++ back ∧ '\n' ∉ front ∧
      ∀ character ∈ back.head?, character = '\n' := by
  by_cases feed : '\n' ∈ text
  · obtain ⟨front, later, rfl, unbroken⟩ := List.eq_append_cons_of_mem feed
    exact ⟨front, '\n' :: later, rfl, unbroken,
      fun character found => (Option.some.inj found).symm⟩
  · exact ⟨text, [], (List.append_nil text).symm, feed, by simp⟩

section Gap

variable {gap : Text} (blank : ∀ character ∈ gap, Character.isBlank character = true)

include blank

theorem rowFits_map_blank_append {row : List Segment} (fits : RowFits row) :
    RowFits (gap.map Segment.blank ++ row) :=
  Separator.rowFits_blanks_append ⟨gap, blank⟩ fits

theorem Spaced.nil {after : List Segment} (fits : RowFits after) :
    Spaced [] gap after (gap.map Segment.blank ++ after) where
  fits := rowFits_map_blank_append blank fits
  text := by
    rw [List.flatMap_append, flatMap_text_map_blank]
    rfl
  scan := fun _ => rfl

/-- A comment takes in what stands in front of the first line feed. -/
theorem exists_spaced_comment
    {body : Text} {after : List Segment} (fits : RowFits (.comment body :: after)) :
    ∃ row, Spaced [.comment body] gap after row := by
  obtain ⟨front, back, rfl, unbrokenFront, begins⟩ := exists_unbroken_front gap
  have unbroken : '\n' ∉ body := fits.1.1
  have unbrokenBoth : '\n' ∉ body ++ front := by
    simp [unbroken, unbrokenFront]
  have fitsBehind : RowFits (back.map Segment.blank ++ after) :=
    rowFits_map_blank_append
      (fun character member => blank character (List.mem_append_right front member)) fits.2
  refine ⟨.comment (body ++ front) :: (back.map .blank ++ after),
    ⟨⟨unbrokenBoth, ?_⟩, fitsBehind⟩, ?_, fun line => ?_⟩
  · rw [List.flatMap_append, flatMap_text_map_blank]
    cases back with
    | nil => exact fits.1.2
    | cons first others => exact begins
  · rw [List.flatMap_cons, List.flatMap_append, flatMap_text_map_blank]
    simp [Segment.text]
  · have noFeed := Character.countP_isLineFeed_eq_zero_iff.mpr unbrokenFront
    rw [List.singleton_append, Scan.ofSegments_comment unbrokenBoth,
      Scan.ofSegments_comment unbroken, List.map_append, List.append_assoc,
      Scan.ofSegments_blanks line front, noFeed, Nat.add_zero]

/-- An open string takes in everything. -/
theorem exists_spaced_openString
    {body : Text} {after : List Segment} (fits : RowFits (.openString body :: after)) :
    ∃ row, Spaced [.openString body] gap after row := by
  have unquotedGap : '"' ∉ gap := by
    intro member
    cases blank '"' member
  have unquoted : '"' ∉ body := fits.1.1
  have unquotedBoth : '"' ∉ body ++ gap := by
    simp [unquoted, unquotedGap]
  have noText : after.flatMap Segment.text = [] := fits.1.2
  have ended : after = [] := by
    rw [← segments_flatMap_text fits.2, noText, segments]
  subst after
  refine ⟨[.openString (body ++ gap)], ⟨⟨unquotedBoth, rfl⟩, trivial⟩, ?_, ?_⟩
  · simp [Segment.text]
  · intro line
    have here : Scan.ofSegments line [.openString (body ++ gap)] =
        ⟨[.fault ⟨line, .unterminatedString⟩],
          line + (Segment.openString (body ++ gap)).lineFeeds⟩ :=
      rfl
    have apart : Scan.ofSegments line
          ([.openString body] ++ (gap.map Segment.blank ++ [])) =
        ⟨[.fault ⟨line, .unterminatedString⟩] ++
            (Scan.ofSegments (line + (Segment.openString body).lineFeeds)
              (gap.map Segment.blank ++ [])).events,
          (Scan.ofSegments (line + (Segment.openString body).lineFeeds)
            (gap.map Segment.blank ++ [])).lastLine⟩ :=
      rfl
    rw [here, apart, Scan.ofSegments_blanks, Segment.lineFeeds_openString,
      Segment.lineFeeds_openString, List.countP_append, ← Nat.add_assoc]
    rfl

/-- What ends in front of a text ends as well where blanks are put in.  Right before
them there is to be no comment and no open string. -/
theorem Segment.EndsBefore.space
    {segment : Segment} {front back : Text}
    (ends : segment.EndsBefore (front ++ back)) (present : gap ≠ [])
    (apart : ∀ body, segment = .comment body ∨ segment = .openString body →
      front ≠ []) :
    segment.EndsBefore (front ++ (gap ++ back)) := by
  have stops : ∀ character ∈ (gap ++ back).head?,
      Character.continuesToken character = false := by
    intro character found
    rw [List.head?_append_of_ne_nil gap present] at found
    exact Character.continuesToken_eq_false_of_isBlank
      (blank character (List.mem_of_mem_head? found))
  apply ends.exchange (OffersNoMore.append stops front back)
  · rintro body rfl character found
    have inFront := apart body (Or.inl rfl)
    rw [List.head?_append_of_ne_nil front inFront] at found
    apply ends character
    rwa [List.head?_append_of_ne_nil front inFront]
  · rintro body rfl
    have ended : front ++ back = [] := ends
    exact absurd (List.append_eq_nil_iff.mp ended).1 (apart body (Or.inr rfl))

theorem Spaced.cons
    {segment : Segment} {before after row : List Segment}
    (spaced : Spaced before gap after row) (present : gap ≠ [])
    (fits : segment.Fits (before.flatMap Segment.text ++ after.flatMap Segment.text))
    (apart : ∀ body, segment = .comment body ∨ segment = .openString body →
      before.flatMap Segment.text ≠ []) :
    Spaced (segment :: before) gap after (segment :: row) where
  fits := by
    refine ⟨⟨fits.1, ?_⟩, spaced.fits⟩
    rw [spaced.text]
    exact fits.2.space blank present apart
  text := by
    rw [List.flatMap_cons, spaced.text, List.flatMap_cons, List.append_assoc]
  scan := by
    intro line
    rw [List.cons_append, Scan.ofSegments, spaced.scan, Scan.ofSegments]

/-- Wherever one segment ends and another begins, blanks can be put in. -/
theorem exists_spaced
    {before after : List Segment} (fits : RowFits (before ++ after)) :
    ∃ row, Spaced before gap after row := by
  by_cases present : gap = []
  · subst gap
    exact ⟨before ++ after, fits, List.flatMap_append, fun _ => rfl⟩
  · induction before with
    | nil =>
        exact ⟨_, .nil blank fits⟩
    | cons segment rest induction =>
        obtain ⟨row, spaced⟩ := induction fits.2
        have fitsHere : segment.Fits
            (rest.flatMap Segment.text ++ after.flatMap Segment.text) := by
          rw [← List.flatMap_append]
          exact fits.1
        -- Only the segment right in front of the blanks can take them in.
        cases rest with
        | nil =>
            cases segment with
            | comment body =>
                exact exists_spaced_comment blank fits
            | openString body =>
                exact exists_spaced_openString blank fits
            | _ =>
                exact ⟨_, spaced.cons blank present fitsHere (by simp)⟩
        | cons second others =>
            have inFront : (second :: others).flatMap Segment.text ≠ [] := by
              rw [List.flatMap_cons]
              exact List.append_ne_nil_of_left_ne_nil fits.2.1.1.text_ne_nil _
            exact ⟨_, spaced.cons blank present fitsHere fun _ _ => inFront⟩

/-- Blanks behind a text add nothing to its scan but their line feeds. -/
theorem scan_append_blanks (source : Text) :
    scan (source ++ gap) =
      { events := (scan source).events
        lastLine := (scan source).lastLine + gap.countP Character.isLineFeed } := by
  have fits : RowFits (segments source ++ []) := by
    rw [List.append_nil]
    exact rowFits_segments source
  obtain ⟨row, spaced⟩ := exists_spaced blank fits
  have divided : segments (source ++ gap) = row := by
    rw [segments_eq_iff, spaced.text, flatMap_text_segments]
    exact ⟨by simp, spaced.fits⟩
  have behind := Scan.ofSegments_blanks (Scan.ofSegments 1 (segments source)).lastLine gap []
  rw [scan_eq_ofSegments, divided, spaced.scan, scan_eq_ofSegments, Scan.mk.injEq,
    Scan.events_ofSegments_append, Scan.lastLine_ofSegments_append, behind]
  exact ⟨List.append_nil _, rfl⟩

end Gap

end LoxLexer
