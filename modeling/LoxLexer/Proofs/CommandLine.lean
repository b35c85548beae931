import LoxLexer.Proofs.Conversation

/-!
# What a command line comes to

The number of arguments decides what is run.  A script is read before anything is
said of it, so a script that cannot be read leaves no tokens behind; any other one
is answered in full, and its exit status tells whether it has been complained
about.  What reading a path brings is left to the files that are there.
-/

namespace LoxLexer

/-! ## What a path leads to -/

section Files

variable (read : Text → Except AccessFault Bytes) (path : Text)

/-- A path leads to a file that holds a text. -/
def IsScript (source : Text) : Prop :=
  ∃ bytes, read path = .ok bytes ∧ Encodes bytes source

/-- Why a path leads to no text, in words: it leads to no file, or to one whose bytes
encode none. -/
inductive IsRefused : Text → Prop where
  | unread {fault : AccessFault} :
      read path = .error fault → IsRefused fault.message
  | undecodable {bytes : Bytes} :
      read path = .ok bytes → (∀ text, ¬ Encodes bytes text) →
      IsRefused "stream did not contain valid UTF-8".toList

theorem script_or_refused :
    (∃ source, IsScript read path source) ∨ ∃ reason, IsRefused read path reason := by
  cases content : read path with
  | error fault =>
      exact Or.inr ⟨fault.message, .unread content⟩
  | ok bytes =>
      by_cases decodes : ∃ source, Encodes bytes source
      · obtain ⟨source, encodes⟩ := decodes
        exact Or.inl ⟨source, bytes, content, encodes⟩
      · exact Or.inr ⟨_, .undecodable content (not_exists.mp decodes)⟩

end Files

namespace Folder

/-- A folder with nothing in it but a script. -/
def ofScript (source : Text) : Folder :=
  ⟨[("script".toList, source.flatMap String.utf8EncodeChar)], []⟩

/-- Every text is the text of a script. -/
theorem isScript_ofScript (source : Text) :
    IsScript (ofScript source).read "script".toList source :=
  ⟨source.flatMap String.utf8EncodeChar, rfl, rfl⟩

end Folder

/-! ## Running a script -/

section Scripts

variable {read : Text → Except AccessFault Bytes} {path source reason : Text}

/-- What is said of a script that cannot be read. -/
def refusal (path reason : Text) : Text :=
  "Failed to read file '".toList ++ path ++ "': ".toList ++ reason

theorem refusal_eq (path reason : Text) :
    refusal path reason =
      "Failed to read file '".toList ++ path ++ "': ".toList ++ reason :=
  rfl

theorem attempt_of_refused (refused : IsRefused read path reason) (input : Bytes) :
    Program.attempt [path] read input =
      ⟨[], [], some (.access (refusal path reason))⟩ := by
  change Script.run path (read path) = _
  cases refused with
  | unread content =>
      rw [content]
      rfl
  | undecodable content none =>
      rw [content, Script.run, Except.bind, Bytes.readText_of_not_encodes none]
      rfl

theorem attempt_of_script (script : IsScript read path source) (input : Bytes) :
    Program.attempt [path] read input = Script.runSource path source := by
  change Script.run path (read path) = _
  obtain ⟨bytes, content, encodes⟩ := script
  rw [content, Script.run, Except.bind, Bytes.readText_of_encodes encodes]

/-- The first failure of a script gives the exit status; it has been shown with the
others and is not shown again. -/
theorem report_runSource (path source : Text) :
    (Script.runSource path source).report =
      { exitStatus := if (scan source).faults = [] then 0 else 65
        output := closeRows ((scan source).tokens.map Token.row)
        complaints := faultComplaints (some path) source } := by
  rw [← Token.rows_eq_closeRows, Script.runSource, diagnostics_run_new, failures_run]
  cases (scan source).faults with
  | nil => rfl
  | cons located rest =>
      rw [if_neg (List.cons_ne_nil located rest)]
      exact congrArg (Report.mk 65 _) (List.append_nil _)

end Scripts

/-! ## Running the program -/

section Outcomes

variable {read : Text → Except AccessFault Bytes} {path source reason : Text}

theorem run_misuse
    {arguments : List Text} (several : 2 ≤ arguments.length)
    (read : Text → Except AccessFault Bytes) (input : Bytes) (coloured : Bool) :
    Program.outcome arguments read input coloured =
      ⟨64, [], "Usage: loxbagel [script]\n".toList⟩ := by
  obtain ⟨first, second, rest, rfl⟩ : ∃ first second rest,
      arguments = first :: second :: rest := by
    rcases arguments with _ | ⟨first, _ | ⟨second, rest⟩⟩
    · cases several
    · cases Nat.le_of_succ_le_succ several
    · exact ⟨first, second, rest, rfl⟩
  rfl

theorem outcome_of_refused
    (refused : IsRefused read path reason) (input : Bytes) (coloured : Bool) :
    Program.outcome [path] read input coloured =
      { exitStatus := 74
        output := []
        errorOutput := Span.renderAll coloured
          ((Failure.access (refusal path reason)).diagnostic none) } := by
  rw [Program.outcome, attempt_of_refused refused]
  rfl

theorem outcome_of_script
    (script : IsScript read path source) (input : Bytes) (coloured : Bool) :
    Program.outcome [path] read input coloured =
      { exitStatus := if (scan source).faults = [] then 0 else 65
        output := closeRows ((scan source).tokens.map Token.row)
        errorOutput := Span.renderAll coloured (faultComplaints (some path) source) } := by
  rw [Program.outcome, attempt_of_script script, report_runSource]
  rfl

/-- What a script that cannot be read comes to, as it is read. -/
theorem run_refused
    (refused : IsRefused read path reason) (input : Bytes) (coloured : Bool) :
    Program.outcome [path] read input coloured =
      { exitStatus := 74
        output := []
        errorOutput := closeRows [accessRow coloured (refusal path reason)] } := by
  rw [outcome_of_refused refused, renderAll_access]

/-- What a script comes to, as it is read. -/
theorem run_script
    (script : IsScript read path source) (input : Bytes) (coloured : Bool) :
    Program.outcome [path] read input coloured =
      { exitStatus := if (scan source).faults = [] then 0 else 65
        output := closeRows ((scan source).tokens.map Token.row)
        errorOutput := closeRows ((scan source).faults.flatMap fun located =>
          shownRows coloured located.fault.wording ⟨located.line, some path⟩
            (sourceLine source located.line)) } := by
  rw [outcome_of_script script, renderAll_faultComplaints]

/-- With one argument at most the program is not used wrongly. -/
theorem exitStatus_ne_misuse
    {arguments : List Text} (few : arguments.length < 2)
    (read : Text → Except AccessFault Bytes) (input : Bytes) (coloured : Bool) :
    (Program.outcome arguments read input coloured).exitStatus ≠ 64 := by
  rcases arguments with _ | ⟨path, _ | ⟨second, rest⟩⟩
  · obtain ⟨texts, ending, conversation⟩ := Conversation.exists_of_input input
    rw [run_prompt conversation]
    split <;> simp
  · obtain ⟨source, script⟩ | ⟨reason, refused⟩ := script_or_refused read path
    · rw [run_script script]
      split <;> simp
    · rw [run_refused refused]
      simp
  · exact absurd few (Nat.not_lt.mpr (Nat.le_add_left 2 rest.length))

/-- A script is run without complaint just where the exit status is zero. -/
theorem exitStatus_eq_zero_iff
    (read : Text → Except AccessFault Bytes) (path : Text) (input : Bytes)
    (coloured : Bool) :
    (Program.outcome [path] read input coloured).exitStatus = 0 ↔
      (Program.outcome [path] read input coloured).errorOutput = [] := by
  obtain ⟨source, script⟩ | ⟨reason, refused⟩ := script_or_refused read path
  · rw [run_script script, closeRows_eq_nil_iff, List.flatMap_eq_nil_iff]
    simp only [shownRows_ne_nil, imp_false, ← List.eq_nil_iff_forall_not_mem]
    simp
  · rw [run_refused refused, closeRows_eq_nil_iff]
    simp

end Outcomes

/-- A command line comes to a misuse where it has several arguments, whatever the
files and the input hold.  With one argument the program complains of a file that
holds no text and prints nothing; a text is scanned in full, and each of its faults
is shown with its source line. -/
theorem command_line_decides_outcome
    (arguments : List Text) (read : Text → Except AccessFault Bytes) (input : Bytes)
    (coloured : Bool) :
    ((Program.outcome arguments read input coloured).exitStatus = 64 ↔
      2 ≤ arguments.length) ∧
    (2 ≤ arguments.length →
      Program.outcome arguments read input coloured =
        ⟨64, [], "Usage: loxbagel [script]\n".toList⟩) ∧
    ∀ path, arguments = [path] →
      ((∀ source, ¬ IsScript read path source) →
        ∃ reason, IsRefused read path reason ∧
          Program.outcome arguments read input coloured =
            { exitStatus := 74
              output := []
              errorOutput := closeRows [accessRow coloured
                ("Failed to read file '".toList ++ path ++ "': ".toList ++ reason)] }) ∧
      (∀ source, IsScript read path source →
        Program.outcome arguments read input coloured =
          { exitStatus := if (scan source).faults = [] then 0 else 65
            output := closeRows ((scan source).tokens.map Token.row)
            errorOutput := closeRows ((scan source).faults.flatMap fun located =>
              shownRows coloured located.fault.wording ⟨located.line, some path⟩
                (sourceLine source located.line)) } ∧
        ∀ located ∈ (scan source).faults, ∃ before offender after,
          Offence source located before offender after ∧
          Lines.IsLineAround before offender after (sourceLine source located.line)) ∧
      ((Program.outcome arguments read input coloured).exitStatus = 0 ↔
        (Program.outcome arguments read input coloured).errorOutput = []) := by
  refine ⟨⟨?several, ?misused⟩, ?misuse, ?script⟩
  case several =>
    intro status
    by_contra few
    exact exitStatus_ne_misuse (not_le.mp few) read input coloured status
  case misused =>
    intro several
    rw [run_misuse several]
  case misuse =>
    intro several
    exact run_misuse several read input coloured
  case script =>
    rintro path rfl
    refine ⟨?refused, ?held, exitStatus_eq_zero_iff read path input coloured⟩
    case refused =>
      intro noScript
      obtain ⟨reason, refused⟩ :=
        (script_or_refused read path).resolve_left (not_exists.mpr noScript)
      exact ⟨reason, refused, run_refused refused input coloured⟩
    case held =>
      intro source script
      exact ⟨run_script script input coloured, fun _ => exists_offence_on_line⟩

-- The text in front of a byte that is none is not scanned.
example :
    Program.run ["a".toList] ⟨[("a".toList, [49, 128])], []⟩ [] ⟨none, none, none⟩ =
      { exitStatus := 74
        output := []
        errorOutput := ("I/O Error: Failed to read file 'a': " ++
          "stream did not contain valid UTF-8\n").toList } := by
  decide +kernel

end LoxLexer
