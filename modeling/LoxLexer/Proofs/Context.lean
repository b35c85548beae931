import LoxLexer.Proofs.Lines
import LoxLexer.Proofs.Offence
import LoxLexer.Proofs.Printing
import LoxLexer.Proofs.Wording

/-!
# The source line of a failure

The scanner counts line feeds, and a diagnostic cuts the source text into lines.
Both agree wherever a scan reports a fault: the line that is shown is the one on
which the offending character stands, so a diagnostic is never without context.
-/

namespace LoxLexer

/-! ## The column of the frame -/

theorem idxOf_bar_of_gutter
    {label : Text} (noBar : '|' ∉ label) (rest : Text) :
    ("  ".toList ++ label ++ ' ' :: '|' :: rest).idxOf '|' = label.length + 3 := by
  have absent : '|' ∉ "  ".toList ++ label ++ [' '] := by
    simp [noBar]
  have regrouped : "  ".toList ++ label ++ ' ' :: '|' :: rest =
      ("  ".toList ++ label ++ [' ']) ++ '|' :: rest := by
    simp
  rw [regrouped, List.idxOf_append_of_notMem absent, List.idxOf_cons_self]
  simp

/-- The rows of an excerpt have their bars in one column. -/
theorem idxOf_bar_contextRows (line : Nat) (shown : Text) :
    ∀ row ∈ contextRows line shown,
      row.idxOf '|' = (Decimal.digits line).length + 3 := by
  have noBarMargin : '|' ∉ List.replicate (Decimal.digits line).length ' ' := by
    intro member
    cases List.eq_of_mem_replicate member
  intro row member
  simp only [contextRows, List.mem_cons, List.not_mem_nil, or_false] at member
  obtain rfl | rfl | rfl := member
  · simpa using idxOf_bar_of_gutter noBarMargin []
  · simpa using idxOf_bar_of_gutter (Decimal.not_mem_digits rfl line) (' ' :: shown)
  · simpa using
      idxOf_bar_of_gutter noBarMargin (' ' :: List.replicate shown.length '^')

/-! ## The diagnostic of an offence -/

/-- The line of a source text that a failure on it is shown with. -/
def sourceLine (source : Text) (line : Nat) : Text :=
  (Lines.ofText source)[line - 1]?.getD []

namespace Offence

variable {source before after shown : Text} {located : LocatedFault} {offender : Char}

/-- An offence stands on the line that the fault is reported on. -/
theorem getElem?_ofText
    (offence : Offence source located before offender after)
    (around : Lines.IsLineAround before offender after shown) :
    (Lines.ofText source)[located.line - 1]? = some shown := by
  have found := around.getElem?_ofText
  rw [← offence.division] at found
  rw [offence.line, lineBehind, Nat.add_sub_cancel_left, found]

theorem isLineAround (offence : Offence source located before offender after) :
    Lines.IsLineAround before offender after (sourceLine source located.line) := by
  obtain ⟨shown, around⟩ := Lines.exists_isLineAround before after
    (offence.blames.ne_of_isBlank rfl) (offence.blames.ne_of_isBlank rfl)
  rw [sourceLine, offence.getElem?_ofText around]
  exact around

/-- The excerpt for an offence is the one of the line around the offender. -/
theorem context_eq (offence : Offence source located before offender after) :
    Failure.context source located.line =
      Failure.excerpt located.line (sourceLine source located.line) := by
  have around := offence.isLineAround
  have found := offence.getElem?_ofText around
  generalize sourceLine source located.line = shown at around found ⊢
  rw [offence.line, lineBehind, Nat.add_comm] at found ⊢
  rw [Nat.add_sub_cancel] at found
  simp only [Failure.context, found]

end Offence

/-! ## The diagnostics of a source text -/

/-- What is said of the faults of a source text, fault by fault. -/
def faultComplaints (filename? : Option Text) (source : Text) : List Span :=
  (scan source).faults.flatMap fun located =>
    (Failure.lexical located.fault.message ⟨located.line, filename?⟩).diagnostic
      (some source)

section Faults

variable {source : Text} {located : LocatedFault}

/-- A reported fault is located at an offence, on the line that is shown. -/
theorem exists_offence_on_line (reported : located ∈ (scan source).faults) :
    ∃ before offender after, Offence source located before offender after ∧
      Lines.IsLineAround before offender after (sourceLine source located.line) := by
  obtain ⟨before, offender, after, offence⟩ := exists_offence reported
  exact ⟨before, offender, after, offence, offence.isLineAround⟩

/-- The diagnostic of a reported fault is never without its source line. -/
theorem diagnostic_of_mem_faults
    (reported : located ∈ (scan source).faults) (filename? : Option Text) :
    (Failure.lexical located.fault.message ⟨located.line, filename?⟩).diagnostic
        (some source) =
      contextDiagnostic located.fault.wording ⟨located.line, filename?⟩
        (sourceLine source located.line) := by
  obtain ⟨before, offender, after, offence⟩ := exists_offence reported
  have parts : (Failure.lexical located.fault.message ⟨located.line, filename?⟩).diagnostic
      (some source) =
        (Failure.lexical located.fault.message ⟨located.line, filename?⟩).headline ++
          (Failure.arrow ⟨located.line, filename?⟩ ++
            Failure.context source located.line) :=
    rfl
  rw [parts, offence.context_eq, located.fault.message_eq_wording, contextDiagnostic,
    List.append_assoc]

theorem renderAll_diagnostic_of_mem_faults
    (reported : located ∈ (scan source).faults) (coloured : Bool)
    (filename? : Option Text) :
    Span.renderAll coloured
        ((Failure.lexical located.fault.message ⟨located.line, filename?⟩).diagnostic
          (some source)) =
      closeRows (shownRows coloured located.fault.wording ⟨located.line, filename?⟩
        (sourceLine source located.line)) := by
  obtain ⟨before, offender, after, _, around⟩ := exists_offence_on_line reported
  rw [diagnostic_of_mem_faults reported,
    renderAll_contextDiagnostic coloured _ _ (List.ne_nil_of_mem around.mem)]

end Faults

/-- All faults of a source text as they are read. -/
theorem renderAll_faultComplaints
    (coloured : Bool) (filename? : Option Text) (source : Text) :
    Span.renderAll coloured (faultComplaints filename? source) =
      closeRows ((scan source).faults.flatMap fun located =>
        shownRows coloured located.fault.wording ⟨located.line, filename?⟩
          (sourceLine source located.line)) := by
  rw [faultComplaints, Span.renderAll_flatMap, closeRows_flatMap]
  apply List.flatMap_congr
  intro located reported
  exact renderAll_diagnostic_of_mem_faults reported coloured filename?

theorem failures_run (session : Session) (source : Text) :
    (session.run source).session.failures =
      session.failures ++ (scan source).faults.map session.failureOf :=
  rfl

/-- What a new session shows of a source text. -/
theorem diagnostics_run_new (filename? : Option Text) (source : Text) :
    ((Session.new filename?).run source).session.diagnostics (some source) =
      faultComplaints filename? source := by
  rw [Session.diagnostics, failures_run, Session.new, List.nil_append, List.flatMap_map]
  rfl

/-- Every failure that a run records is the report on an offending character, and
its diagnostic shows the line of the source text on which that character stands,
with as many carets as the line has characters and the bars in one column. -/
theorem diagnostic_shows_offending_line (session : Session) (source : Text) :
    ∃ recorded : List Failure,
      (session.run source).session.failures = session.failures ++ recorded ∧
      ∀ failure ∈ recorded, ∃ located before offender after shown,
        Offence source located before offender after ∧
        failure =
          .lexical located.fault.wording ⟨located.line, session.filename?⟩ ∧
        Lines.IsLineAround before offender after shown ∧
        offender ∈ shown ∧
        Span.renderAll false (failure.diagnostic (some source)) =
          closeRows (diagnosticRows located.fault.wording
            ⟨located.line, session.filename?⟩ shown) ∧
        ∀ row ∈ contextRows located.line shown,
          row.idxOf '|' = (Decimal.digits located.line).length + 3 := by
  refine ⟨_, failures_run session source, ?_⟩
  intro failure member
  obtain ⟨located, reported, rfl⟩ := List.mem_map.mp member
  obtain ⟨before, offender, after, offence, around⟩ := exists_offence_on_line reported
  refine ⟨located, before, offender, after, _, offence, ?_, around, around.mem, ?_,
    idxOf_bar_contextRows located.line _⟩
  · rw [Session.failureOf, located.fault.message_eq_wording]
  · exact renderAll_diagnostic_of_mem_faults reported false session.filename?

end LoxLexer
