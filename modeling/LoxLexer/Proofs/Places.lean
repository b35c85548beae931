import LoxLexer.Proofs.Offence
import Mathlib.Data.List.Pairwise

/-!
# Where findings begin

Every event of a scan is found in one turn of the main loop, and the turn begins at
one place of the source text.  These places ascend, and what has been found when the
cursor comes to a place begins in front of it.
-/

namespace LoxLexer

/-- An event with the number of characters in front of its segment. -/
structure Finding where
  start : Nat
  event : Event
  deriving DecidableEq, Repr

namespace Scanner

/-- What the rest of a scan finds, turn by turn, each with the place where the turn
begins. -/
def findings (scanner : Scanner) : List Finding :=
  if inside : scanner.atEnd = false then
    ((scanner.scanSegment inside).events.toList.drop scanner.events.size).map
        (Finding.mk scanner.current) ++
      (scanner.scanSegment inside).findings
  else []
termination_by scanner.source.size - scanner.current
decreasing_by
  have before := atEnd_eq_false_iff.mp inside
  have progress := scanner.current_lt_scanSegment inside
  rw [source_scanSegment]
  omega

/-- Whether the scan of a source text begins a segment at a place. -/
def BeginsAt (source : Text) (place : Nat) : Prop :=
  ∃ scanner, Reached source scanner ∧ scanner.atEnd = false ∧ scanner.current = place

end Scanner

/-! ## Findings of placed segments -/

def Placement.finding? (placed : Placement) : Option Finding :=
  placed.event?.map (Finding.mk placed.before.length)

theorem Placement.start_of_finding?
    {placed : Placement} {finding : Finding} (found : placed.finding? = some finding) :
    finding.start = placed.before.length := by
  obtain ⟨event, _, same⟩ := Option.map_eq_some_iff.mp found
  rw [← same]

theorem map_event_filterMap_finding? (row : List Placement) :
    (row.filterMap Placement.finding?).map Finding.event =
      row.filterMap Placement.event? := by
  rw [List.map_filterMap]
  congr
  funext placed
  rw [Placement.finding?, Option.map_map]
  cases placed.event? with
  | none => rfl
  | some event => rfl

theorem place_append (before : Text) (row more : List Segment) :
    place before (row ++ more) =
      place before row ++ place (before ++ row.flatMap Segment.text) more := by
  induction row generalizing before with
  | nil =>
      simp [place]
  | cons segment rest induction =>
      simp only [List.cons_append, place, induction, List.flatMap_cons, List.append_assoc]

theorem length_le_of_mem_place
    {before : Text} {row : List Segment} {placed : Placement}
    (member : placed ∈ place before row) :
    before.length ≤ placed.before.length := by
  induction row generalizing before with
  | nil =>
      cases member
  | cons segment rest induction =>
      rcases List.mem_cons.mp member with here | later
      · rw [here]
      · have further := induction later
        rw [List.length_append] at further
        omega

/-- A segment takes at least one character, so it begins in front of where its row ends. -/
theorem length_lt_of_mem_place
    {before : Text} {row : List Segment} {placed : Placement}
    (formed : ∀ segment ∈ row, segment.WellFormed) (member : placed ∈ place before row) :
    placed.before.length < (before ++ row.flatMap Segment.text).length := by
  have inRow : placed.segment ∈ row := by
    rw [← map_segment_place before row]
    exact List.mem_map_of_mem member
  have present := List.length_pos_iff.mpr (formed placed.segment inRow).text_ne_nil
  have front := (prefix_of_mem_place member).length_le
  rw [List.length_append] at front
  omega

section Bounds

variable {before : Text} {row : List Segment} {finding : Finding}

theorem length_le_start
    (member : finding ∈ (place before row).filterMap Placement.finding?) :
    before.length ≤ finding.start := by
  obtain ⟨placed, inRow, found⟩ := List.mem_filterMap.mp member
  rw [Placement.start_of_finding? found]
  exact length_le_of_mem_place inRow

theorem start_lt_length
    (formed : ∀ segment ∈ row, segment.WellFormed)
    (member : finding ∈ (place before row).filterMap Placement.finding?) :
    finding.start < (before ++ row.flatMap Segment.text).length := by
  obtain ⟨placed, inRow, found⟩ := List.mem_filterMap.mp member
  rw [Placement.start_of_finding? found]
  exact length_lt_of_mem_place formed inRow

end Bounds

theorem pairwise_place
    {row : List Segment} (fits : RowFits row) (before : Text) :
    (place before row).Pairwise fun earlier later =>
      earlier.before.length < later.before.length := by
  induction row generalizing before with
  | nil =>
      exact List.Pairwise.nil
  | cons segment rest induction =>
      refine List.pairwise_cons.mpr ⟨fun placed member => ?_, induction fits.2 _⟩
      have present := List.length_pos_iff.mpr fits.1.1.text_ne_nil
      have further := length_le_of_mem_place member
      rw [List.length_append] at further
      dsimp only
      omega

/-! ## Findings of a scan -/

namespace Scanner

section Reached

variable {source : Text} {scanner : Scanner}

theorem drop_events_scanSegment
    {first : Char} {rest : Text} (sees : scanner.remaining = first :: rest)
    (inside : scanner.atEnd = false) :
    (scanner.scanSegment inside).events.toList.drop scanner.events.size =
      ((Segment.next first rest).1.event? scanner.line).toList := by
  rw [scanSegment_eq_pass sees]
  simp [pass]

theorem Reached.findings_eq (reached : Reached source scanner) :
    scanner.findings =
      (place (source.take scanner.current) (segments scanner.remaining)).filterMap
        Placement.finding? := by
  fun_induction findings scanner with
  | case1 scanner inside induction =>
      obtain ⟨first, rest, sees⟩ := first_of_inside inside
      obtain ⟨_, place_eq⟩ := reached.division sees
      have later := induction (.step inside reached)
      rw [reached.take_scanSegment sees, remaining_scanSegment sees] at later
      rw [later, drop_events_scanSegment sees, sees, segments_cons, place,
        List.filterMap_cons, Placement.finding?, Placement.event?, place_eq,
        reached.line_eq]
      cases (Segment.next first rest).1.event? (lineBehind (source.take scanner.current)) with
      | none => rfl
      | some event => rfl
  | case2 scanner ended =>
      have nothing : scanner.remaining = [] := by
        rw [← atEnd_iff]
        simpa using ended
      simp [nothing, place]

/-- What has been passed when the cursor comes to a place. -/
theorem Reached.exists_passed (reached : Reached source scanner) :
    ∃ passed, segments source = passed ++ segments scanner.remaining ∧
      passed.flatMap Segment.text = source.take scanner.current := by
  induction reached with
  | initial =>
      exact ⟨[], by rw [remaining_ofText, List.nil_append], rfl⟩
  | @step scanner inside reached induction =>
      obtain ⟨first, rest, sees⟩ := first_of_inside inside
      obtain ⟨passed, divided, taken⟩ := induction
      refine ⟨passed ++ [(Segment.next first rest).1], ?_, ?_⟩
      · rw [divided, sees, segments_cons, remaining_scanSegment sees, List.append_assoc,
          List.singleton_append]
      · rw [List.flatMap_append, taken, reached.take_scanSegment sees, List.flatMap_singleton]

end Reached

theorem findings_ofText (source : Text) :
    (ofText source).findings = (placements source).filterMap Placement.finding? := by
  have start : Reached source (ofText source) := .initial
  rw [start.findings_eq, remaining_ofText]
  rfl

/-- The events of a scan are its findings, in their order. -/
theorem map_event_findings (source : Text) :
    (ofText source).findings.map Finding.event = (scan source).events := by
  have events := events_ofSegments [] (segments source)
  rw [findings_ofText, map_event_filterMap_finding?, scan_eq_ofSegments]
  exact events.symm

/-- No two findings begin at one place, and what begins first is found first. -/
theorem pairwise_findings (source : Text) :
    (ofText source).findings.Pairwise fun earlier later => earlier.start < later.start := by
  rw [findings_ofText, List.pairwise_filterMap]
  apply (pairwise_place (rowFits_segments source) []).imp
  intro earlier later ascends finding found other foundOther
  rw [Placement.start_of_finding? found, Placement.start_of_finding? foundOther]
  exact ascends

end Scanner

end LoxLexer
