import LoxLexer.Proofs.Blanks
import LoxLexer.Proofs.Places

/-!
# Blanks put in where a segment begins

A text is divided at a place where its scan begins a segment, or at its end, and blanks
are put in there.  Whatever is found in front of that place is found as before, and
whatever is found behind it is found as many lines further down as the blanks have line
feeds.
-/

namespace LoxLexer

/-- The event of a finding when lines are put in at a place.  It is found further down
unless it begins in front of that place. -/
def Finding.eventBelow (place lines : Nat) (finding : Finding) : Event :=
  if finding.start < place then finding.event else finding.event.raise lines

/-! ## Tokens and faults with their places -/

namespace Finding

def token? : Finding → Option (Nat × Token)
  | ⟨start, .token found⟩ => some (start, found)
  | ⟨_, .fault _⟩ => none

def fault? : Finding → Option (Nat × LocatedFault)
  | ⟨_, .token _⟩ => none
  | ⟨start, .fault located⟩ => some (start, located)

section Views

variable (findings : List Finding)

theorem filterMap_token?_event :
    (findings.map event).filterMap Event.token? = (findings.filterMap token?).map Prod.snd := by
  rw [List.filterMap_map, List.map_filterMap]
  congr
  funext ⟨start, event⟩
  cases event <;> rfl

theorem filterMap_fault?_event :
    (findings.map event).filterMap Event.fault? = (findings.filterMap fault?).map Prod.snd := by
  rw [List.filterMap_map, List.map_filterMap]
  congr
  funext ⟨start, event⟩
  cases event <;> rfl

theorem filterMap_token?_eventBelow (place lines : Nat) :
    (findings.map (eventBelow place lines)).filterMap Event.token? =
      (findings.filterMap token?).map fun placed =>
        if placed.1 < place then placed.2 else placed.2.raise lines := by
  rw [List.filterMap_map, List.map_filterMap]
  congr
  funext ⟨start, event⟩
  by_cases inFront : start < place <;> cases event <;>
    simp [eventBelow, token?, Event.token?, Event.raise, inFront]

theorem filterMap_fault?_eventBelow (place lines : Nat) :
    (findings.map (eventBelow place lines)).filterMap Event.fault? =
      (findings.filterMap fault?).map fun placed =>
        if placed.1 < place then placed.2 else placed.2.raise lines := by
  rw [List.filterMap_map, List.map_filterMap]
  congr
  funext ⟨start, event⟩
  by_cases inFront : start < place <;> cases event <;>
    simp [eventBelow, fault?, Event.fault?, Event.raise, inFront]

end Views

end Finding

/-- The tokens of a source text but for the last one, each with the place where it
begins. -/
def placedTokens (source : Text) : List (Nat × Token) :=
  (Scanner.ofText source).findings.filterMap Finding.token?

/-- The faults of a source text, each with the place where it begins. -/
def placedFaults (source : Text) : List (Nat × LocatedFault) :=
  (Scanner.ofText source).findings.filterMap Finding.fault?

theorem tokens_eq_placed (source : Text) :
    (scan source).tokens =
      (placedTokens source).map Prod.snd ++
        [⟨.endOfInput, [], .absent, (scan source).lastLine⟩] := by
  rw [Scan.tokens, ← Scanner.map_event_findings, Finding.filterMap_token?_event]
  rfl

theorem faults_eq_placed (source : Text) :
    (scan source).faults = (placedFaults source).map Prod.snd := by
  rw [Scan.faults, ← Scanner.map_event_findings, Finding.filterMap_fault?_event]
  rfl

/-! ## The place in the row of segments -/

/-- Where a segment begins, the row of segments falls in two. -/
theorem exists_division_of_beginsAt
    {before after : Text}
    (begins : after = [] ∨ Scanner.BeginsAt (before ++ after) before.length) :
    ∃ front back, segments (before ++ after) = front ++ back ∧
      front.flatMap Segment.text = before ∧ back.flatMap Segment.text = after := by
  rcases begins with ended | ⟨scanner, reached, _, here⟩
  · refine ⟨segments (before ++ after), [], (List.append_nil _).symm, ?_, ?_⟩
    · rw [flatMap_text_segments, ended, List.append_nil]
    · rw [ended, List.flatMap_nil]
  · obtain ⟨passed, divided, taken⟩ := reached.exists_passed
    refine ⟨passed, segments scanner.remaining, divided, ?_, ?_⟩
    · rw [taken, here, List.take_left]
    · rw [flatMap_text_segments, reached.remaining_eq, here, List.drop_left]

section Border

variable {row : List Segment} {border : Nat} (lines : Nat)

/-- Nothing changes in front of the border. -/
theorem map_eventBelow_front
    (before : Text) (formed : ∀ segment ∈ row, segment.WellFormed)
    (inFront : (before ++ row.flatMap Segment.text).length ≤ border) :
    ((place before row).filterMap Placement.finding?).map
        (Finding.eventBelow border lines) =
      (Scan.ofSegments (lineBehind before) row).events := by
  rw [events_ofSegments, ← map_event_filterMap_finding?]
  apply List.map_congr_left
  intro finding member
  have bound := start_lt_length formed member
  exact if_pos (by omega)

/-- All that is found behind the border is raised. -/
theorem map_eventBelow_behind {before : Text} (behind : border ≤ before.length) :
    ((place before row).filterMap Placement.finding?).map
        (Finding.eventBelow border lines) =
      (Scan.ofSegments (lineBehind before) row).events.map (Event.raise lines) := by
  rw [events_ofSegments, ← map_event_filterMap_finding?, List.map_map]
  apply List.map_congr_left
  intro finding member
  have bound := length_le_start member
  exact if_neg (by omega)

end Border

/-- The findings of a row in two parts, where lines are put in between the parts. -/
theorem map_eventBelow_findings
    {source : Text} {front back : List Segment} (divided : segments source = front ++ back)
    (lines : Nat) :
    (Scanner.ofText source).findings.map
        (Finding.eventBelow (front.flatMap Segment.text).length lines) =
      (Scan.ofSegments 1 front).events ++
        (Scan.ofSegments (Scan.ofSegments 1 front).lastLine back).events.map
          (Event.raise lines) := by
  have formed : ∀ segment ∈ front, segment.WellFormed := by
    intro segment member
    apply (rowFits_segments source).wellFormed
    rw [divided]
    exact List.mem_append_left back member
  have firstLine : lineBehind [] = 1 := rfl
  have line := lastLine_ofSegments [] front
  have earlier := map_eventBelow_front lines [] formed (Nat.le_refl _)
  rw [List.nil_append, firstLine] at line earlier
  rw [Scanner.findings_ofText, placements, divided, place_append, List.nil_append,
    List.filterMap_append, List.map_append, earlier,
    map_eventBelow_behind lines (Nat.le_refl _), line]

/-! ## The scan of the spaced text -/

/-- Blanks between two rows only raise what is found in the second one. -/
theorem Scan.ofSegments_blanks_between
    (line : Nat) (front : List Segment) (gap : Text) (back : List Segment) :
    ofSegments line (front ++ (gap.map Segment.blank ++ back)) =
      { events := (ofSegments line front).events ++
          (ofSegments (ofSegments line front).lastLine back).events.map
            (Event.raise (gap.countP Character.isLineFeed))
        lastLine := (ofSegments line (front ++ back)).lastLine +
          gap.countP Character.isLineFeed } := by
  rw [Scan.mk.injEq, events_ofSegments_append, lastLine_ofSegments_append,
    ofSegments_blanks, lastLine_ofSegments_append, ofSegments_add]
  exact ⟨rfl, rfl⟩

/-- The scan of the text with the blanks in it, event by event. -/
theorem scan_spaced (before gap after : Text)
    (blank : ∀ character ∈ gap, Character.isBlank character = true)
    (begins : after = [] ∨ Scanner.BeginsAt (before ++ after) before.length) :
    scan (before ++ (gap ++ after)) =
      { events := (Scanner.ofText (before ++ after)).findings.map
          (Finding.eventBelow before.length (gap.countP Character.isLineFeed))
        lastLine := (scan (before ++ after)).lastLine +
          gap.countP Character.isLineFeed } := by
  obtain ⟨front, back, divided, written, writtenBack⟩ := exists_division_of_beginsAt begins
  have fits : RowFits (front ++ back) := by
    rw [← divided]
    exact rowFits_segments _
  obtain ⟨row, spaced⟩ := exists_spaced blank fits
  have dividedSpaced : segments (before ++ (gap ++ after)) = row := by
    rw [segments_eq_iff, spaced.text, written, writtenBack]
    exact ⟨rfl, spaced.fits⟩
  have found := map_eventBelow_findings divided (gap.countP Character.isLineFeed)
  rw [written] at found
  rw [scan_eq_ofSegments, scan_eq_ofSegments, dividedSpaced, spaced.scan, divided,
    Scan.ofSegments_blanks_between, found]

/-- Blanks between two segments, or behind the last one, change nothing but lines: the
scan has the same tokens and faults in the same order, and those that begin behind the
blanks are raised by the line feeds in them, as is the end of the input. -/
theorem scan_blanks_between (before gap after : Text)
    (blank : ∀ character ∈ gap, Character.isBlank character = true)
    (begins : after = [] ∨ Scanner.BeginsAt (before ++ after) before.length) :
    ((Scanner.ofText (before ++ after)).findings.map Finding.event =
        (scan (before ++ after)).events ∧
      scan (before ++ (gap ++ after)) =
        { events := (Scanner.ofText (before ++ after)).findings.map
            (Finding.eventBelow before.length (gap.countP Character.isLineFeed))
          lastLine := (scan (before ++ after)).lastLine +
            gap.countP Character.isLineFeed }) ∧
    ((scan (before ++ after)).tokens =
        (placedTokens (before ++ after)).map Prod.snd ++
          [⟨.endOfInput, [], .absent, (scan (before ++ after)).lastLine⟩] ∧
      (scan (before ++ (gap ++ after))).tokens =
        ((placedTokens (before ++ after)).map fun placed =>
          if placed.1 < before.length then placed.2
          else placed.2.raise (gap.countP Character.isLineFeed)) ++
          [⟨.endOfInput, [], .absent, (scan (before ++ after)).lastLine +
            gap.countP Character.isLineFeed⟩]) ∧
    (scan (before ++ after)).faults = (placedFaults (before ++ after)).map Prod.snd ∧
      (scan (before ++ (gap ++ after))).faults =
        (placedFaults (before ++ after)).map fun placed =>
          if placed.1 < before.length then placed.2
          else placed.2.raise (gap.countP Character.isLineFeed) := by
  have spaced := scan_spaced before gap after blank begins
  refine ⟨⟨Scanner.map_event_findings _, spaced⟩, ⟨tokens_eq_placed _, ?tokens⟩,
    faults_eq_placed _, ?faults⟩
  case tokens =>
    rw [spaced, Scan.tokens, Finding.filterMap_token?_eventBelow]
    rfl
  case faults =>
    rw [spaced, Scan.faults, Finding.filterMap_fault?_eventBelow]
    rfl

/-- Between a number and a point, with a comment and an open string behind them. -/
theorem scan_blanks_between_point :
    ((∀ character ∈ "\n \t\r\n".toList, Character.isBlank character = true) ∧
        Scanner.BeginsAt ("1".toList ++ ".// 2\n\"3".toList) 1) ∧
      (scan ("1".toList ++ ("\n \t\r\n".toList ++ ".// 2\n\"3".toList))).tokens =
        [⟨.number, ['1'], .number ⟨0x3ff0000000000000⟩, 1⟩,
          ⟨.symbol .dot, ['.'], .absent, 3⟩, ⟨.endOfInput, [], .absent, 4⟩] ∧
      (scan ("1".toList ++ ("\n \t\r\n".toList ++ ".// 2\n\"3".toList))).faults =
        [⟨4, .unterminatedString⟩] := by
  have table : "\n \t\r\n".toList.all Character.isBlank = true := by
    decide
  have blank := List.all_eq_true.mp table
  have begins : Scanner.BeginsAt ("1".toList ++ ".// 2\n\"3".toList) 1 :=
    ⟨_, .step (by decide +kernel) .initial, by decide +kernel, by decide +kernel⟩
  obtain ⟨_, ⟨_, tokens⟩, _, faults⟩ := scan_blanks_between "1".toList "\n \t\r\n".toList
    ".// 2\n\"3".toList blank (.inr begins)
  refine ⟨⟨blank, begins⟩, tokens.trans ?_, faults.trans ?_⟩
  · decide +kernel
  · decide +kernel

end LoxLexer
