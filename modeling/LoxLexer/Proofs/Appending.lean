import LoxLexer.Proofs.LineBoundary

/-!
# A text that goes on

When a text goes on, what has been read of it is read again, but for the last segment or,
where a number and a point stand at the end, the last two.  A rejected character is never
among these.
-/

namespace LoxLexer

/-- Whether a fault is about a character that begins nothing. -/
def Fault.isRejection : Fault → Bool
  | unexpectedCharacter _ => true
  | _ => false

/-! ## What is settled of a row -/

/-- A row in two parts, of which the first is read again whatever follows the text. -/
structure Settles (row settled loose : List Segment) (more : Text) : Prop where
  division : row = settled ++ loose
  length_loose : loose.length ≤ 2
  accepted : ∀ segment ∈ loose, segment.segmentClass ≠ .rejected
  closed : ∀ segment ∈ settled, segment.segmentClass ≠ .openString
  goesOn : settled <+: segments (row.flatMap Segment.text ++ more)

theorem segments_text_append
    {segment : Segment} {rest : Text} (fits : segment.Fits rest) :
    segments (segment.text ++ rest) = segment :: segments rest := by
  rw [segments_eq_iff, List.flatMap_cons, flatMap_text_segments]
  refine ⟨rfl, ?_, rowFits_segments rest⟩
  rwa [flatMap_text_segments]

section Settles

variable {segment : Segment} {rest settled loose : List Segment} {more : Text}

theorem Settles.cons
    (settles : Settles rest settled loose more) (closed : segment.segmentClass ≠ .openString)
    (fits : segment.Fits (rest.flatMap Segment.text ++ more)) :
    Settles (segment :: rest) (segment :: settled) loose more where
  division := by rw [settles.division, List.cons_append]
  length_loose := settles.length_loose
  accepted := settles.accepted
  closed := by
    intro other member
    rcases List.mem_cons.mp member with rfl | later
    · exact closed
    · exact settles.closed other later
  goesOn := by
    rw [List.flatMap_cons, List.append_assoc, segments_text_append fits,
      List.prefix_cons_inj]
    exact settles.goesOn

theorem Settles.nil (more : Text) :
    Settles [] [] [] more :=
  ⟨rfl, by simp, by simp, by simp, List.nil_prefix⟩

theorem Settles.of_length_le
    {row : List Segment} (short : row.length ≤ 2)
    (accepted : ∀ segment ∈ row, segment.segmentClass ≠ .rejected) (more : Text) :
    Settles row [] row more :=
  ⟨rfl, short, accepted, by simp, List.nil_prefix⟩

/-- The last segment may go on as something longer, unless its character is rejected. -/
theorem exists_settles_last
    (formed : segment.WellFormed) (more : Text) :
    ∃ settled loose, Settles [segment] settled loose more := by
  by_cases rejected : segment.segmentClass = .rejected
  · have notOpen : segment.segmentClass ≠ .openString := by
      rw [rejected]
      decide
    cases segment with
    | stray character =>
        exact ⟨_, _, (Settles.nil more).cons notOpen ⟨formed, trivial⟩⟩
    | _ =>
        cases rejected
  · exact ⟨_, _, .of_length_le (by simp) (by simpa using rejected) more⟩

/-- A number in front of a point may go on with a fraction. -/
theorem exists_settles_point
    {numeral : Numeral} (fits : RowFits rest) (point : rest.flatMap Segment.text = ['.'])
    (more : Text) :
    ∃ settled loose, Settles (.number numeral :: rest) settled loose more := by
  have alone : rest = [.symbol .dot] := by
    rw [← segments_flatMap_text fits, point]
    decide +kernel
  subst alone
  exact ⟨_, _, .of_length_le (by simp) (by simp [Segment.segmentClass]) more⟩

theorem exists_settles
    {row : List Segment} (fits : RowFits row) (more : Text) :
    ∃ settled loose, Settles row settled loose more := by
  induction row with
  | nil =>
      exact ⟨[], [], .nil more⟩
  | cons segment rest induction =>
      cases rest with
      | nil =>
          exact exists_settles_last fits.1.1 more
      | cons next others =>
          have present : (next :: others).flatMap Segment.text ≠ [] := by
            rw [List.flatMap_cons]
            exact List.append_ne_nil_of_left_ne_nil fits.2.1.1.text_ne_nil _
          by_cases seen : ∀ numeral, segment = .number numeral →
              (next :: others).flatMap Segment.text ≠ ['.']
          · obtain ⟨settled, loose, settles⟩ := induction fits.2
            have divided : RowFits ([segment] ++ next :: others) := fits
            have notOpen : segment.segmentClass ≠ .openString :=
              divided.closed (List.cons_ne_nil next others) segment (List.mem_singleton_self _)
            exact ⟨_, _, settles.cons notOpen ⟨fits.1.1, fits.1.2.append present seen more⟩⟩
          · push Not at seen
            obtain ⟨numeral, rfl, point⟩ := seen
            exact exists_settles_point fits.2 point more

end Settles

/-! ## What is settled of a scan -/

/-- A fault of a row is about one of its segments. -/
theorem exists_faulty_of_mem_faults
    {line : Nat} {row : List Segment} {located : LocatedFault}
    (reported : located ∈ (Scan.ofSegments line row).faults) :
    ∃ segment ∈ row,
      (segment.segmentClass = .rejected ∧ located.fault.isRejection = true) ∨
        (segment.segmentClass = .openString ∧ located.fault.isRejection = false) := by
  obtain ⟨event, found, isFault⟩ := List.mem_filterMap.mp reported
  obtain ⟨segment, inRow, begun, contributes⟩ := mem_events_ofSegments found
  refine ⟨segment, inRow, ?_⟩
  cases segment with
  | stray character =>
      cases contributes
      cases isFault
      exact .inl ⟨rfl, rfl⟩
  | openString body =>
      cases contributes
      cases isFault
      exact .inr ⟨rfl, rfl⟩
  | _ =>
      cases contributes
      all_goals cases isFault

section Faults

variable {line : Nat} {row : List Segment}

theorem filter_isRejection_eq_self
    (closed : ∀ segment ∈ row, segment.segmentClass ≠ .openString) :
    ((Scan.ofSegments line row).faults.filter fun located => located.fault.isRejection) =
      (Scan.ofSegments line row).faults := by
  rw [List.filter_eq_self]
  intro located reported
  obtain ⟨segment, inRow, ⟨_, rejection⟩ | ⟨isOpen, _⟩⟩ := exists_faulty_of_mem_faults reported
  · exact rejection
  · exact absurd isOpen (closed segment inRow)

theorem filter_isRejection_eq_nil
    (accepted : ∀ segment ∈ row, segment.segmentClass ≠ .rejected) :
    ((Scan.ofSegments line row).faults.filter fun located => located.fault.isRejection) = [] := by
  rw [List.filter_eq_nil_iff]
  intro located reported
  obtain ⟨segment, inRow, ⟨rejected, _⟩ | ⟨_, other⟩⟩ := exists_faulty_of_mem_faults reported
  · exact absurd rejected (accepted segment inRow)
  · simp [other]

end Faults

theorem length_tokens_le (line : Nat) (row : List Segment) :
    ((Scan.ofSegments line row).events.filterMap Event.token?).length ≤ row.length := by
  have lexemes := congrArg List.length (lexemes_of_segments line row)
  rw [List.length_map] at lexemes
  rw [lexemes]
  exact List.length_filterMap_le _ _

/-- When a text goes on, all of its tokens but the last two stay what they are and where
they are, and so do all faults about characters that begin nothing. -/
theorem scan_append_keeps_tokens (source more : Text) :
    ∃ found lastLine,
      (scan source).tokens = found ++ [⟨.endOfInput, [], .absent, lastLine⟩] ∧
      found.take (found.length - 2) <+: (scan (source ++ more)).tokens ∧
      ((scan source).faults.filter fun located => located.fault.isRejection) <+:
        (scan (source ++ more)).faults := by
  obtain ⟨settled, loose, settles⟩ := exists_settles (rowFits_segments source) more
  obtain ⟨later, joined⟩ := settles.goesOn
  rw [flatMap_text_segments] at joined
  rw [scan_eq_ofSegments, scan_eq_ofSegments, settles.division, ← joined]
  refine ⟨_, _, rfl, ?tokens, ?faults⟩
  case tokens =>
    have few := length_tokens_le (Scan.ofSegments 1 settled).lastLine loose
    have short := settles.length_loose
    rw [Scan.events_ofSegments_append, List.filterMap_append, List.length_append,
      List.take_append_of_le_length (by omega), Scan.tokens_ofSegments_append]
    exact (List.take_prefix _ _).trans (List.prefix_append _ _)
  case faults =>
    rw [Scan.faults_ofSegments_append, List.filter_append,
      filter_isRejection_eq_self settles.closed, filter_isRejection_eq_nil settles.accepted,
      List.append_nil, Scan.faults_ofSegments_append]
    exact List.prefix_append _ _

/-- A digit behind a number and a point changes both. -/
example : ¬ (scan "1.".toList).tokens.take 1 <+: (scan ("1.".toList ++ ['5'])).tokens := by
  decide +kernel

end LoxLexer
