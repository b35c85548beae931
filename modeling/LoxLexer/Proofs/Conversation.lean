import LoxLexer.Program
import LoxLexer.Proofs.Context
import LoxLexer.Proofs.InputLine
import LoxLexer.Proofs.Printing

/-!
# Conversations at the prompt

A conversation is told by the bytes of the input alone, line by line: which lines
are answered, and what ends it.  What the prompt prints, shows and returns is read
off the conversation, and nothing that one line brings reaches the next.
-/

namespace LoxLexer

/-! ## What is said -/

/-- What ends a conversation. -/
inductive Ending where
  /-- No further line exists. -/
  | exhausted
  | emptyLine
  /-- A line is not UTF-8. -/
  | undecodable
  deriving DecidableEq, Repr

/-- The texts of the lines that are answered, and what ends the conversation. -/
inductive Conversation : Bytes → List Text → Ending → Prop where
  | exhausted : Conversation [] [] .exhausted
  | emptyLine {line later : Bytes} {lineEnd : Text} :
      IsLine line later → Encodes line lineEnd → IsLineEnd lineEnd →
      Conversation (line ++ later) [] .emptyLine
  | undecodable {line later : Bytes} :
      IsLine line later → (∀ text, ¬ Encodes line text) →
      Conversation (line ++ later) [] .undecodable
  | answered {line later : Bytes} {text lineEnd : Text} {texts : List Text}
      {ending : Ending} :
      IsLine line later → Encodes line (text ++ lineEnd) → IsTrimmed text →
      IsLineEnd lineEnd → Conversation later texts ending →
      Conversation (line ++ later) (text :: texts) ending

namespace Conversation

variable {input : Bytes} {texts : List Text} {ending : Ending}

/-- Every input makes a conversation. -/
theorem exists_of_input (input : Bytes) :
    ∃ texts ending, Conversation input texts ending := by
  induction size : input.length using Nat.strongRecOn generalizing input with
  | ind count induction =>
      by_cases empty : input = []
      · subst input
        exact ⟨[], .exhausted, .exhausted⟩
      · obtain ⟨line, later, isLine, rfl⟩ := exists_isLine empty
        by_cases decodes : ∃ text, Encodes line text
        · obtain ⟨text, encodes⟩ := decodes
          obtain ⟨front, lineEnd, rfl, isEnd, rfl | trimmed⟩ := exists_trimmed text
          · exact ⟨[], .emptyLine, .emptyLine isLine encodes isEnd⟩
          · have shorter : later.length < count := by
              have positive := List.length_pos_iff.mpr isLine.ne_nil
              rw [← size, List.length_append]
              omega
            obtain ⟨texts, ending, rest⟩ := induction later.length shorter later rfl
            exact ⟨front :: texts, ending,
              .answered isLine encodes trimmed isEnd rest⟩
        · exact ⟨[], .undecodable, .undecodable isLine (not_exists.mp decodes)⟩

theorem input_ne_nil
    (conversation : Conversation input texts ending) (stopped : ending ≠ .exhausted) :
    input ≠ [] := by
  cases conversation with
  | exhausted => exact absurd rfl stopped
  | emptyLine isLine _ _ => exact List.append_ne_nil_of_left_ne_nil isLine.ne_nil _
  | undecodable isLine _ => exact List.append_ne_nil_of_left_ne_nil isLine.ne_nil _
  | answered isLine _ _ _ _ => exact List.append_ne_nil_of_left_ne_nil isLine.ne_nil _

/-- A conversation that has been stopped by a whole line is not changed by
anything appended to the input. -/
theorem append
    (conversation : Conversation input texts ending) (stopped : ending ≠ .exhausted)
    (ends : input.getLast? = some 10) (more : Bytes) :
    Conversation (input ++ more) texts ending := by
  induction conversation with
  | exhausted =>
      exact absurd rfl stopped
  | emptyLine isLine encodes isEnd =>
      rw [List.append_assoc]
      exact .emptyLine (isLine.append ends more) encodes isEnd
  | undecodable isLine none =>
      rw [List.append_assoc]
      exact .undecodable (isLine.append ends more) none
  | @answered line later _ _ _ _ isLine encodes trimmed isEnd rest induction =>
      have endsLater : later.getLast? = some 10 := by
        rw [← ends, List.getLast?_append_of_ne_nil line (rest.input_ne_nil stopped)]
      rw [List.append_assoc]
      exact .answered (isLine.append ends more) encodes trimmed isEnd
        (induction stopped endsLater)

/-- A line of text that holds any character but carriage returns and line feeds is
answered, be it a blank or a comment. -/
theorem answered_of_mem
    {line later : Bytes} {text : Text} {character : Char}
    (conversation : Conversation (line ++ later) texts ending)
    (isLine : IsLine line later) (encodes : Encodes line text)
    (member : character ∈ text) (notReturn : character ≠ '\r')
    (notFeed : character ≠ '\n') :
    ∃ front lineEnd others, texts = front :: others ∧ text = front ++ lineEnd ∧
      IsLineEnd lineEnd ∧ Conversation later others ending := by
  generalize joined : line ++ later = input at conversation
  cases conversation with
  | exhausted =>
      exact absurd (List.append_eq_nil_iff.mp joined).1 isLine.ne_nil
  | emptyLine isOther encodesOther isEnd =>
      obtain ⟨rfl, rfl⟩ := isLine.unique isOther joined
      obtain rfl := encodes.unique encodesOther
      rcases isEnd character member with isReturn | isFeed
      · exact absurd isReturn notReturn
      · exact absurd isFeed notFeed
  | undecodable isOther none =>
      obtain ⟨rfl, rfl⟩ := isLine.unique isOther joined
      exact absurd encodes (none text)
  | answered isOther encodesOther trimmed isEnd rest =>
      obtain ⟨rfl, rfl⟩ := isLine.unique isOther joined
      exact ⟨_, _, _, rfl, encodes.unique encodesOther, isEnd, rest⟩

theorem answered_lines
    (conversation : Conversation input texts ending) :
    ∀ text ∈ texts, text ≠ [] ∧ '\n' ∉ text := by
  induction conversation with
  | answered isLine encodes trimmed isEnd rest induction =>
      intro text member
      rcases List.mem_cons.mp member with rfl | later
      · exact ⟨trimmed.ne_nil, isLine.unbroken encodes trimmed⟩
      · exact induction text later
  | _ => simp

end Conversation

/-! ## One line and one session -/

theorem clear_run
    {session : Session} (ready : session.failures = []) (source : Text) :
    (session.run source).session.clear = session := by
  obtain ⟨filename?, failures⟩ := session
  obtain rfl : failures = [] := ready
  rfl

section Responses

variable {session : Session} {line : Bytes} {text lineEnd : Text}

theorem respond_of_lineEnd
    (encodes : Encodes line lineEnd) (isEnd : IsLineEnd lineEnd) :
    Prompt.respond session line = .finished := by
  have nothing : Lines.trimmed lineEnd = [] := by
    simpa using trimmed_append (Or.inl rfl) isEnd
  rw [Prompt.respond, Bytes.readText_of_encodes encodes]
  simp only [nothing]

theorem respond_of_not_encodes (none : ∀ text, ¬ Encodes line text) :
    Prompt.respond session line = .broken (Prompt.unreadable .notText) := by
  rw [Prompt.respond, Bytes.readText_of_not_encodes none]

/-- A line is answered from its own text, and leaves the session as it was. -/
theorem respond_of_trimmed
    (ready : session.failures = []) (encodes : Encodes line (text ++ lineEnd))
    (trimmed : IsTrimmed text) (isEnd : IsLineEnd lineEnd) :
    Prompt.respond session line =
      .answered session (Token.rows (scan text).tokens)
        ((session.run text).session.diagnostics (some text)) := by
  have front := trimmed_append (Or.inr trimmed) isEnd
  have next := clear_run ready text
  cases text with
  | nil =>
      exact absurd rfl trimmed.ne_nil
  | cons first rest =>
      rw [Prompt.respond, Bytes.readText_of_encodes encodes]
      simp only [front, next]
      rfl

end Responses

/-! ## What is shown of a line -/

section Unbroken

variable {text : Text} (unbroken : '\n' ∉ text)

include unbroken

theorem line_of_unbroken
    {located : LocatedFault} (reported : located ∈ (scan text).faults) :
    located.line = 1 := by
  obtain ⟨before, offender, after, offence⟩ := exists_offence reported
  rw [offence.line]
  apply lineBehind_of_unbroken
  intro member
  rw [offence.division] at unbroken
  exact unbroken (List.mem_append_left _ member)

theorem sourceLine_of_unbroken (present : text ≠ []) :
    sourceLine text 1 = text := by
  have first := Lines.head?_ofText present unbroken .atEnd
  rw [List.append_nil, List.head?_eq_getElem?] at first
  rw [sourceLine, Nat.sub_self, first, Option.getD_some]

/-- What is said of a line by itself shows that line. -/
theorem renderAll_faultComplaints_of_unbroken (present : text ≠ []) (coloured : Bool) :
    Span.renderAll coloured (faultComplaints none text) =
      closeRows ((scan text).faults.flatMap fun located =>
        shownRows coloured located.fault.wording ⟨1, none⟩ text) := by
  rw [renderAll_faultComplaints]
  congr 1
  apply List.flatMap_congr
  intro located reported
  rw [line_of_unbroken unbroken reported, sourceLine_of_unbroken unbroken present]

/-- The tokens of an unbroken text take one row each, and the last row is the same
for all texts. -/
theorem rows_of_unbroken :
    ∃ rows, (scan text).tokens.map Token.row = rows ++ ["EOF  nil".toList] ∧
      ∀ row ∈ rows, '\n' ∉ row := by
  have last : (Token.endOfInput (scan text).lastLine).row = "EOF  nil".toList :=
    rfl
  refine ⟨_, by rw [Scan.tokens, List.map_append, List.map_singleton, last], ?_⟩
  intro row member
  obtain ⟨token, found, rfl⟩ := List.mem_map.mp member
  rw [← Token.display_eq_row]
  exact unbroken_display_of_mem_tokens unbroken token (List.mem_append_left _ found)

end Unbroken

/-! ## The whole session -/

/-- What the prompt comes to where a conversation ends. -/
def Ending.failure? : Ending → Option Failure
  | undecodable => some (Prompt.unreadable .notText)
  | _ => none

/-- What the prompt says of the end of a conversation. -/
def Ending.complaint : Ending → List Span
  | undecodable => (Prompt.unreadable .notText).diagnostic none
  | _ => []

/-- The end of a conversation as it is read. -/
def Ending.rows (coloured : Bool) : Ending → List Text
  | undecodable =>
      [accessRow coloured
        "Error reading input: stream did not contain valid UTF-8".toList]
  | _ => []

theorem Ending.renderAll_complaint (coloured : Bool) (ending : Ending) :
    Span.renderAll coloured ending.complaint = closeRows (ending.rows coloured) := by
  cases ending with
  | undecodable => exact renderAll_access coloured _
  | exhausted => rfl
  | emptyLine => rfl

/-- What the prompt prints: a marker and the tokens for each line, and the marker
that is not answered. -/
def transcript (texts : List Text) : Text :=
  (texts.flatMap fun text =>
    "> ".toList ++ closeRows ((scan text).tokens.map Token.row)) ++ "> ".toList

/-- The session that all lines share is as new before each of them. -/
theorem runLines_of_conversation
    {input : Bytes} {texts : List Text} {ending : Ending}
    (conversation : Conversation input texts ending) :
    Prompt.runLines (Session.new none) (Bytes.lines input) =
      ⟨transcript texts, texts.flatMap (faultComplaints none), ending.failure?⟩ := by
  induction conversation with
  | exhausted =>
      rfl
  | emptyLine isLine encodes isEnd =>
      rw [isLine.lines_append, Prompt.runLines, respond_of_lineEnd encodes isEnd]
      rfl
  | undecodable isLine none =>
      rw [isLine.lines_append, Prompt.runLines, respond_of_not_encodes none]
      rfl
  | answered isLine encodes trimmed isEnd rest induction =>
      rw [isLine.lines_append, Prompt.runLines,
        respond_of_trimmed rfl encodes trimmed isEnd]
      simp only [induction, diagnostics_run_new, Token.rows_eq_closeRows, transcript,
        Prompt.marker, List.flatMap_cons, List.append_assoc]

theorem report_of_ending
    (output : Text) (complaints : List Span) (ending : Ending) :
    Attempt.report ⟨output, complaints, ending.failure?⟩ =
      { exitStatus := if ending = .undecodable then 74 else 0
        output := output
        complaints := complaints ++ ending.complaint } := by
  cases ending with
  | undecodable => rfl
  | exhausted => simp [Attempt.report, Ending.failure?, Ending.complaint]
  | emptyLine => simp [Attempt.report, Ending.failure?, Ending.complaint]

section Sessions

variable {input : Bytes} {texts : List Text} {ending : Ending}

theorem outcome_of_conversation
    (conversation : Conversation input texts ending)
    (read : Text → Except AccessFault Bytes) (coloured : Bool) :
    Program.outcome [] read input coloured =
      { exitStatus := if ending = .undecodable then 74 else 0
        output := transcript texts
        errorOutput := Span.renderAll coloured
          (texts.flatMap (faultComplaints none) ++ ending.complaint) } := by
  have attempted : Program.attempt [] read input =
      ⟨transcript texts, texts.flatMap (faultComplaints none), ending.failure?⟩ :=
    runLines_of_conversation conversation
  rw [Program.outcome, attempted, report_of_ending]
  rfl

/-- What a prompt comes to, as it is read. -/
theorem run_prompt
    (conversation : Conversation input texts ending)
    (read : Text → Except AccessFault Bytes) (coloured : Bool) :
    Program.outcome [] read input coloured =
      { exitStatus := if ending = .undecodable then 74 else 0
        output := transcript texts
        errorOutput := closeRows
          ((texts.flatMap fun text => (scan text).faults.flatMap fun located =>
              shownRows coloured located.fault.wording ⟨1, none⟩ text) ++
            ending.rows coloured) } := by
  rw [outcome_of_conversation conversation, Span.renderAll_append,
    Ending.renderAll_complaint, Span.renderAll_flatMap, closeRows_append,
    closeRows_flatMap]
  congr 2
  apply List.flatMap_congr
  intro text member
  obtain ⟨present, unbroken⟩ := conversation.answered_lines text member
  exact renderAll_faultComplaints_of_unbroken unbroken present coloured

end Sessions

/-- A prompt follows the conversation that its input makes: it prints the tokens of
each line row by row, shows the failures of each line with that line, and ends as
the conversation does.  Whatever holds more than a line ending is answered, and
nothing behind the line that stops the prompt has any influence. -/
theorem prompt_answers_each_line
    (read : Text → Except AccessFault Bytes) (coloured : Bool) (input : Bytes) :
    (∃ texts ending, Conversation input texts ending) ∧
    ∀ texts ending, Conversation input texts ending →
      Program.outcome [] read input coloured =
        { exitStatus := if ending = .undecodable then 74 else 0
          output := transcript texts
          errorOutput := closeRows
            ((texts.flatMap fun text => (scan text).faults.flatMap fun located =>
                shownRows coloured located.fault.wording ⟨1, none⟩ text) ++
              ending.rows coloured) } ∧
      (∀ text ∈ texts, ∃ rows,
        (scan text).tokens.map Token.row = rows ++ ["EOF  nil".toList] ∧
        ∀ row ∈ rows, '\n' ∉ row) ∧
      (∀ line later text character, input = line ++ later → IsLine line later →
        Encodes line text → character ∈ text → character ≠ '\r' → character ≠ '\n' →
        ∃ front lineEnd others, texts = front :: others ∧ text = front ++ lineEnd ∧
          IsLineEnd lineEnd ∧ Conversation later others ending) ∧
      (ending ≠ .exhausted → input.getLast? = some 10 → ∀ more,
        Program.outcome [] read (input ++ more) coloured =
          Program.outcome [] read input coloured) := by
  refine ⟨Conversation.exists_of_input input, ?_⟩
  intro texts ending conversation
  refine ⟨run_prompt conversation read coloured, ?rows, ?answered, ?influence⟩
  case rows =>
    intro text member
    exact rows_of_unbroken (conversation.answered_lines text member).2
  case answered =>
    rintro line later text character rfl isLine encodes member notReturn notFeed
    exact conversation.answered_of_mem isLine encodes member notReturn notFeed
  case influence =>
    intro stopped ends more
    rw [run_prompt conversation,
      run_prompt (conversation.append stopped ends more)]

-- A faulty line does not stop the prompt; a carriage return alone does, in front of
-- a byte that is no text.
example :
    Program.run [] ⟨[], []⟩ [64, 10, 13, 10, 128] ⟨none, none, none⟩ =
      { exitStatus := 0
        output := "> EOF  nil\n> ".toList
        errorOutput := closeRows
          (diagnosticRows "Unexpected character '@'.".toList ⟨1, none⟩ ['@']) } := by
  decide +kernel

end LoxLexer
