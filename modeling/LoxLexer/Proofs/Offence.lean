import LoxLexer.Proofs.LineNumbers

/-!
# Offending characters

Every fault of a scan is reported by the one turn of the main loop that stands at
the character to blame: the character that begins nothing, or the quote that is
never answered.
-/

namespace LoxLexer

/-- Whether a character that begins a segment is to blame for a fault. -/
def Fault.Blames (fault : Fault) (offender : Char) : Prop :=
  (fault = .unexpectedCharacter offender ∧ IsStray offender) ∨
    (fault = .unterminatedString ∧ offender = '"')

/-- A fault of the scan of `source`, with the character that is to blame for it
and what stands on both sides of that character. -/
structure Offence (source : Text) (located : LocatedFault)
    (before : Text) (offender : Char) (after : Text) : Prop where
  division : source = before ++ offender :: after
  /-- The scan reports the fault in the turn that begins at the character. -/
  reported : ∃ (scanner : Scanner) (inside : scanner.atEnd = false),
    Scanner.Reached source scanner ∧ scanner.current = before.length ∧
      (scanner.scanSegment inside).faults = scanner.faults ++ [located]
  blames : located.fault.Blames offender
  line : located.line = lineBehind before

/-- No blank is ever to blame. -/
theorem Fault.Blames.ne_of_isBlank
    {fault : Fault} {offender blank : Char} (blames : fault.Blames offender)
    (isBlank : Character.isBlank blank = true) :
    offender ≠ blank := by
  rintro rfl
  obtain ⟨_, stray⟩ | ⟨_, rfl⟩ := blames
  · rw [stray.blank] at isBlank
    cases isBlank
  · cases isBlank

/-! ## States of the main loop -/

namespace Scanner

section Reached

variable {source : Text} {scanner : Scanner}

theorem first_of_inside (inside : scanner.atEnd = false) :
    ∃ first rest, scanner.remaining = first :: rest := by
  cases sees : scanner.remaining with
  | nil =>
      rw [atEnd_iff.mpr sees] at inside
      cases inside
  | cons first rest =>
      exact ⟨first, rest, rfl⟩

/-- What has been taken when a segment is passed. -/
theorem Reached.take_scanSegment
    {first : Char} {rest : Text} (reached : Reached source scanner)
    (sees : scanner.remaining = first :: rest) (inside : scanner.atEnd = false) :
    source.take (scanner.scanSegment inside).current =
      source.take scanner.current ++ (Segment.next first rest).1.text := by
  have behind : source.drop scanner.current =
      (Segment.next first rest).1.text ++ (Segment.next first rest).2 := by
    rw [← reached.remaining_eq, sees, Segment.text_append_next]
  rw [scanSegment_eq_pass sees, pass, within, List.take_add, behind, List.take_left]

theorem Reached.line_eq (reached : Reached source scanner) :
    scanner.line = lineBehind (source.take scanner.current) := by
  induction reached with
  | initial =>
      rfl
  | @step scanner inside earlier induction =>
      obtain ⟨first, rest, sees⟩ := first_of_inside inside
      rw [earlier.take_scanSegment sees, lineBehind_append, ← induction,
        scanSegment_eq_pass sees]
      rfl

theorem Reached.division
    {first : Char} {rest : Text} (reached : Reached source scanner)
    (sees : scanner.remaining = first :: rest) :
    source = source.take scanner.current ++ first :: rest ∧
      (source.take scanner.current).length = scanner.current := by
  have left : source.drop scanner.current = first :: rest := by
    rw [← reached.remaining_eq, sees]
  have inside : scanner.current < source.length := by
    rw [← List.drop_eq_nil_iff.not.trans Nat.not_le, left]
    exact List.cons_ne_nil first rest
  constructor
  · rw [← left, List.take_append_drop]
  · rw [List.length_take]
    omega

/-- Wherever one of the segments that remain begins, the main loop comes by. -/
theorem Reached.exists_later
    {before after : List Segment} (reached : Reached source scanner)
    (divided : segments scanner.remaining = before ++ after) :
    ∃ later, Reached source later ∧
      later.current = scanner.current + (before.flatMap Segment.text).length ∧
      segments later.remaining = after := by
  induction before generalizing scanner with
  | nil =>
      exact ⟨scanner, reached, rfl, divided⟩
  | cons segment rest induction =>
      cases sees : scanner.remaining with
      | nil =>
          rw [sees, segments_nil] at divided
          cases divided
      | cons first others =>
          rw [sees, segments_cons] at divided
          obtain ⟨rfl, behind⟩ := List.cons.inj divided
          have inside := atEnd_of_remaining sees
          rw [← remaining_scanSegment sees inside] at behind
          obtain ⟨later, reachedLater, place, ended⟩ := induction (.step inside reached) behind
          refine ⟨later, reachedLater, ?_, ended⟩
          rw [place, scanSegment_eq_pass sees, pass, within, List.flatMap_cons,
            List.length_append, Nat.add_assoc]

end Reached

/-! ## Faults and the turns that report them -/

/-- A fault of the finished scan is there already, or a later turn reports it. -/
theorem exists_reached_of_mem_faults
    {source : Text} {scanner : Scanner} {located : LocatedFault}
    (reached : Reached source scanner)
    (member : located ∈ scanner.scanAll.faults) :
    located ∈ scanner.faults ∨
      ∃ (later : Scanner) (inside : later.atEnd = false),
        Reached source later ∧
          (later.scanSegment inside).faults = later.faults ++ [located] := by
  fun_induction scanAll scanner with
  | case1 scanner inside induction =>
      obtain ⟨first, rest, sees⟩ := first_of_inside inside
      rcases induction (.step inside reached) member with found | later
      · have reports := faults_scanSegment sees inside
        rw [reports, List.mem_append, Option.mem_toList] at found
        rcases found with earlier | here
        · exact Or.inl earlier
        · rw [here] at reports
          exact Or.inr ⟨scanner, inside, reached, reports⟩
      · exact Or.inr later
  | case2 scanner ended =>
      exact Or.inl member

end Scanner

/-- The first character of a segment is to blame for the fault that the segment
contributes. -/
theorem Segment.blames_of_event?
    {first : Char} {rest : Text} {line : Nat} {located : LocatedFault}
    (contributes : ((Segment.next first rest).1.event? line).bind Event.fault? =
      some located) :
    located.line = line ∧ located.fault.Blames first := by
  have joined := Segment.text_append_next first rest
  have formed := (Segment.fits_next first rest).1
  cases segment : (Segment.next first rest).1 with
  | stray character =>
      rw [segment] at contributes joined formed
      obtain rfl : character = first := (List.cons.inj joined).1
      obtain rfl := Option.some.inj contributes
      exact ⟨rfl, Or.inl ⟨rfl, formed⟩⟩
  | openString body =>
      rw [segment] at contributes joined
      obtain rfl : '"' = first := (List.cons.inj joined).1
      obtain rfl := Option.some.inj contributes
      exact ⟨rfl, Or.inr ⟨rfl, rfl⟩⟩
  | _ =>
      rw [segment] at contributes
      cases contributes

theorem exists_offence
    {source : Text} {located : LocatedFault} (member : located ∈ (scan source).faults) :
    ∃ before offender after, Offence source located before offender after := by
  have start : Scanner.Reached source (Scanner.ofText source) := .initial
  obtain nothing | ⟨scanner, inside, reached, reports⟩ :=
    Scanner.exists_reached_of_mem_faults start member
  · cases nothing
  · obtain ⟨first, rest, sees⟩ := Scanner.first_of_inside inside
    obtain ⟨division, place⟩ := reached.division sees
    have contributes :
        ((Segment.next first rest).1.event? scanner.line).bind Event.fault? =
          some located := by
      have added := reports
      rw [Scanner.faults_scanSegment sees, List.append_cancel_left_eq,
        Option.toList_eq_singleton_iff] at added
      exact added
    obtain ⟨line, blames⟩ := Segment.blames_of_event? contributes
    exact ⟨source.take scanner.current, first, rest, division,
      ⟨scanner, inside, reached, place.symm, reports⟩, blames,
      line.trans reached.line_eq⟩

end LoxLexer
