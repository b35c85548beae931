import LoxLexer.Proofs.Places
import LoxLexer.Proofs.Raising

/-!
# Scans that begin in the middle

Between two segments a scanner keeps nothing of what it has read but the line.  Two
scanners with the same characters in front of them go on alike, whatever the sources
that they stand in: the one finds what the other finds, so many characters and lines
further on.  In particular a scan can be resumed at any place where it begins a segment.
-/

namespace LoxLexer

/-- A finding so many characters and lines further on. -/
def Finding.shift (characters lines : Nat) (finding : Finding) : Finding where
  start := finding.start + characters
  event := finding.event.raise lines

namespace Scanner

/-! ## Two scanners side by side -/

/-- Two scanners between segments, with the same characters left.  The one in the whole
text stands so many characters and lines further on than the one in the part. -/
structure Shifted (characters lines : Nat) (whole part : Scanner) : Prop where
  remaining : whole.remaining = part.remaining
  current : whole.current = part.current + characters
  line : whole.line = part.line + lines

namespace Shifted

variable {characters lines : Nat} {whole part : Scanner}

theorem atEnd_eq (shifted : Shifted characters lines whole part) :
    whole.atEnd = part.atEnd := by
  rw [Bool.eq_iff_iff, atEnd_iff, atEnd_iff, shifted.remaining]

/-- The next segment is the same for both. -/
theorem scanSegment
    (shifted : Shifted characters lines whole part)
    (inside : whole.atEnd = false) (insidePart : part.atEnd = false) :
    Shifted characters lines (whole.scanSegment inside) (part.scanSegment insidePart) := by
  obtain ⟨first, rest, sees⟩ := first_of_inside insidePart
  have seesWhole := shifted.remaining.trans sees
  refine ⟨?_, ?_, ?_⟩
  · rw [remaining_scanSegment seesWhole, remaining_scanSegment sees]
  · rw [scanSegment_eq_pass seesWhole, scanSegment_eq_pass sees]
    simp only [pass, within, shifted.current, Nat.add_right_comm]
  · rw [scanSegment_eq_pass seesWhole, scanSegment_eq_pass sees]
    simp only [pass, within, shifted.line, Nat.add_right_comm]

/-- What is found in the next segment differs in the line alone. -/
theorem drop_events
    (shifted : Shifted characters lines whole part)
    (inside : whole.atEnd = false) (insidePart : part.atEnd = false) :
    (whole.scanSegment inside).events.toList.drop whole.events.size =
      ((part.scanSegment insidePart).events.toList.drop part.events.size).map
        (Event.raise lines) := by
  obtain ⟨first, rest, sees⟩ := first_of_inside insidePart
  rw [drop_events_scanSegment (shifted.remaining.trans sees), drop_events_scanSegment sees,
    shifted.line, Segment.event?_add, Option.toList_map]

/-- Side by side the scanners find the same in the rest of the text. -/
theorem findings_eq (shifted : Shifted characters lines whole part) :
    whole.findings = part.findings.map (Finding.shift characters lines) := by
  fun_induction findings part generalizing whole with
  | case1 part insidePart induction =>
      have inside := shifted.atEnd_eq.trans insidePart
      have later := induction (shifted.scanSegment inside insidePart)
      rw [findings, dif_pos inside, shifted.drop_events inside insidePart, later,
        shifted.current, List.map_append, List.map_map, List.map_map]
      rfl
  | case2 part ended =>
      rw [findings, dif_neg (by rw [shifted.atEnd_eq]; exact ended), List.map_nil]

theorem line_scanAll (shifted : Shifted characters lines whole part) :
    whole.scanAll.line = part.scanAll.line + lines := by
  fun_induction scanAll part generalizing whole with
  | case1 part insidePart induction =>
      have inside := shifted.atEnd_eq.trans insidePart
      rw [scanAll, dif_pos inside]
      exact induction (shifted.scanSegment inside insidePart)
  | case2 part ended =>
      rw [scanAll, dif_neg (by rw [shifted.atEnd_eq]; exact ended)]
      exact shifted.line

end Shifted

/-! ## What is found from a place on -/

theorem current_le_start
    {scanner : Scanner} {finding : Finding} (member : finding ∈ scanner.findings) :
    scanner.current ≤ finding.start := by
  fun_induction findings scanner with
  | case1 scanner inside induction =>
      rcases List.mem_append.mp member with here | later
      · obtain ⟨event, _, same⟩ := List.mem_map.mp here
        rw [← same]
      · exact (scanner.current_lt_scanSegment inside).le.trans (induction later)
  | case2 scanner ended =>
      cases member

section Reached

variable {source : Text} {scanner : Scanner}

theorem Reached.scanAll_eq (reached : Reached source scanner) :
    scanner.scanAll = (ofText source).scanAll := by
  induction reached with
  | initial =>
      rfl
  | @step scanner inside _ induction =>
      rw [← induction, scanAll.eq_def scanner, dif_pos inside]

/-- What has been found when the scanner comes to a place begins in front of it. -/
theorem Reached.exists_earlier (reached : Reached source scanner) :
    ∃ earlier, (ofText source).findings = earlier ++ scanner.findings ∧
      ∀ finding ∈ earlier, finding.start < scanner.current := by
  induction reached with
  | initial =>
      exact ⟨[], rfl, fun _ => nofun⟩
  | @step scanner inside _ induction =>
      obtain ⟨earlier, divided, inFront⟩ := induction
      have progress := scanner.current_lt_scanSegment inside
      rw [findings.eq_def scanner, dif_pos inside, ← List.append_assoc] at divided
      refine ⟨_, divided, fun finding member => ?_⟩
      rcases List.mem_append.mp member with passed | here
      · exact (inFront finding passed).trans progress
      · obtain ⟨event, _, same⟩ := List.mem_map.mp here
        rw [← same]
        exact progress

/-- The rest of a scan finds just what begins at its place or behind it. -/
theorem Reached.filter_findings (reached : Reached source scanner) :
    (ofText source).findings.filter (fun finding => scanner.current ≤ finding.start) =
      scanner.findings := by
  obtain ⟨earlier, divided, inFront⟩ := reached.exists_earlier
  have dropped : earlier.filter (fun finding => scanner.current ≤ finding.start) = [] := by
    rw [List.filter_eq_nil_iff]
    intro finding member
    simpa using inFront finding member
  have kept : scanner.findings.filter (fun finding => scanner.current ≤ finding.start) =
      scanner.findings := by
    rw [List.filter_eq_self]
    intro finding member
    exact decide_eq_true (current_le_start member)
  rw [divided, List.filter_append, dropped, kept, List.nil_append]

end Reached

/-- The main loop comes to every place where a segment begins, and to the end. -/
theorem exists_reached_of_beginsAt
    {before after : Text} (begins : after = [] ∨ BeginsAt (before ++ after) before.length) :
    ∃ scanner, Reached (before ++ after) scanner ∧ scanner.current = before.length := by
  rcases begins with ended | ⟨scanner, reached, _, here⟩
  · have start : Reached (before ++ after) (ofText (before ++ after)) := .initial
    have whole : segments (ofText (before ++ after)).remaining =
        segments (before ++ after) ++ [] := by
      rw [remaining_ofText, List.append_nil]
    obtain ⟨scanner, reached, place, _⟩ := start.exists_later whole
    refine ⟨scanner, reached, ?_⟩
    rw [place, flatMap_text_segments, ended, List.append_nil]
    exact Nat.zero_add _
  · exact ⟨scanner, reached, here⟩

/-- A scanner that comes to a place goes on as one that begins there. -/
theorem Reached.shifted
    {before after : Text} {scanner : Scanner}
    (reached : Reached (before ++ after) scanner) (here : scanner.current = before.length) :
    Shifted before.length (before.countP Character.isLineFeed) scanner (ofText after) := by
  refine ⟨?_, ?_, ?_⟩
  · rw [reached.remaining_eq, here, List.drop_left, remaining_ofText]
  · rw [here]
    exact (Nat.zero_add _).symm
  · rw [reached.line_eq, here, List.take_left]
    rfl

end Scanner

/-! ## The scan from a place on -/

/-- What the scan of a text finds from a place on, and the line on which it ends. -/
def scanBehind (source : Text) (place : Nat) : Scan where
  events :=
    ((Scanner.ofText source).findings.filter fun finding => place ≤ finding.start).map
      Finding.event
  lastLine := (scan source).lastLine

/-- From a place on where a segment begins, or from the end, a scan finds what the scan
of the rest of the text finds, every line being raised by the line feeds in front of
that place and every place by the characters. -/
theorem scan_resumes (before after : Text)
    (begins : after = [] ∨ Scanner.BeginsAt (before ++ after) before.length) :
    (Scanner.ofText (before ++ after)).findings.map Finding.event =
        (scan (before ++ after)).events ∧
      (Scanner.ofText (before ++ after)).findings.filter
          (fun finding => before.length ≤ finding.start) =
        (Scanner.ofText after).findings.map
          (Finding.shift before.length (before.countP Character.isLineFeed)) ∧
      (scanBehind (before ++ after) before.length).tokens =
        (scan after).tokens.map (Token.raise (before.countP Character.isLineFeed)) ∧
      (scanBehind (before ++ after) before.length).faults =
        (scan after).faults.map (LocatedFault.raise (before.countP Character.isLineFeed)) := by
  obtain ⟨scanner, reached, here⟩ := Scanner.exists_reached_of_beginsAt begins
  have shifted := reached.shifted here
  have found : (Scanner.ofText (before ++ after)).findings.filter
      (fun finding => before.length ≤ finding.start) =
        (Scanner.ofText after).findings.map
          (Finding.shift before.length (before.countP Character.isLineFeed)) := by
    rw [← here, reached.filter_findings, here, shifted.findings_eq]
  have raised : scanBehind (before ++ after) before.length =
      (scan after).raise (before.countP Character.isLineFeed) := by
    have lastLine := shifted.line_scanAll
    rw [reached.scanAll_eq] at lastLine
    rw [scanBehind, found, Scan.raise, Scan.mk.injEq, List.map_map,
      ← Scanner.map_event_findings, List.map_map]
    exact ⟨rfl, lastLine⟩
  refine ⟨Scanner.map_event_findings _, found, ?_, ?_⟩
  · rw [raised, Scan.tokens_raise]
  · rw [raised, Scan.faults_raise]

/-- Behind a string that spans two lines, in front of a stray character and an open
string. -/
theorem scan_resumes_stray :
    Scanner.BeginsAt ("\"a\n\"".toList ++ "#1.\n\"".toList) 4 ∧
      (scanBehind ("\"a\n\"".toList ++ "#1.\n\"".toList) 4).tokens =
        (scan "#1.\n\"".toList).tokens.map (Token.raise 1) ∧
      (scanBehind ("\"a\n\"".toList ++ "#1.\n\"".toList) 4).faults =
        (scan "#1.\n\"".toList).faults.map (LocatedFault.raise 1) := by
  have begins : Scanner.BeginsAt ("\"a\n\"".toList ++ "#1.\n\"".toList) 4 :=
    ⟨_, .step (by decide +kernel) .initial, by decide +kernel, by decide +kernel⟩
  exact ⟨begins, (scan_resumes "\"a\n\"".toList "#1.\n\"".toList (.inr begins)).2.2⟩

end LoxLexer
