import LoxLexer.Proofs.CommandLine
import LoxLexer.Proofs.Escaping

/-!
# Colour changes appearance only

What a run prints and the status it exits with never depend on colour.  Its
complaints are styled piece by piece, each between an opening and a closing
sequence, so deleting these sequences from coloured complaints leaves the plain
ones, unless the user's own text holds escape characters.
-/

namespace LoxLexer

/-! ## Deleting control sequences -/

/-- The control sequences that colour is written with. -/
def Style.sequences : List Text :=
  ["\x1b[1;31m".toList, "\x1b[1;34m".toList, "\x1b[0m".toList]

theorem Style.opening_mem_sequences (style : Style) :
    style.opening ∈ sequences := by
  cases style with
  | alarm => exact .head _
  | frame => exact .tail _ (.head _)

theorem Style.closing_mem_sequences :
    closing ∈ sequences :=
  .tail _ (.tail _ (.head _))

/-- A text with every control sequence deleted, from the front to the back. -/
def withoutSequences : Text → Text
  | [] => []
  | first :: rest =>
      match Style.sequences.find? fun sequence => sequence.isPrefixOf (first :: rest) with
      | some sequence => withoutSequences (rest.drop (sequence.length - 1))
      | none => first :: withoutSequences rest
termination_by text => text.length
decreasing_by
  · rw [List.length_drop, List.length_cons]
    omega
  · exact Nat.lt_succ_self rest.length

@[simp]
theorem withoutSequences_nil :
    withoutSequences [] = [] := by
  rw [withoutSequences]

theorem withoutSequences_cons
    {first : Char} (different : first ≠ '\x1b') (rest : Text) :
    withoutSequences (first :: rest) = first :: withoutSequences rest := by
  have noSequence : (Style.sequences.find? fun sequence =>
      sequence.isPrefixOf (first :: rest)) = none := by
    simp [Style.sequences, List.isPrefixOf, Ne.symm different]
  rw [withoutSequences, noSequence]

theorem withoutSequences_append
    {front : Text} (inert : '\x1b' ∉ front) (rest : Text) :
    withoutSequences (front ++ rest) = front ++ withoutSequences rest := by
  induction front with
  | nil =>
      rfl
  | cons first others induction =>
      rw [List.mem_cons, not_or] at inert
      rw [List.cons_append, withoutSequences_cons (Ne.symm inert.1), induction inert.2,
        List.cons_append]

theorem find?_sequence
    {sequence : Text} (member : sequence ∈ Style.sequences) (rest : Text) :
    (Style.sequences.find? fun other => other.isPrefixOf (sequence ++ rest)) =
      some sequence := by
  simp only [Style.sequences, List.mem_cons, List.not_mem_nil, or_false] at member
  rcases member with alarm | frame | closing
  · rw [alarm]
    rfl
  · rw [frame]
    rfl
  · rw [closing]
    rfl

theorem withoutSequences_sequence
    {sequence : Text} (member : sequence ∈ Style.sequences) (rest : Text) :
    withoutSequences (sequence ++ rest) = withoutSequences rest := by
  have found := find?_sequence member rest
  cases sequence with
  | nil =>
      exact absurd member (by decide +kernel)
  | cons first others =>
      rw [List.cons_append] at found ⊢
      rw [withoutSequences, found]
      change withoutSequences ((others ++ rest).drop others.length) = _
      rw [List.drop_left]

namespace Span

/-! ## Styled spans -/

@[simp]
theorem text_plain (text : Text) : (plain text).text = text :=
  rfl

@[simp]
theorem text_styled (style : Style) (text : Text) : (styled style text).text = text :=
  rfl

/-- Spans whose own text holds no escape character. -/
def Inert (spans : List Span) : Prop :=
  ∀ span ∈ spans, '\x1b' ∉ span.text

@[simp]
theorem inert_nil : Inert [] := by
  simp [Inert]

@[simp]
theorem inert_cons_iff {first : Span} {rest : List Span} :
    Inert (first :: rest) ↔ '\x1b' ∉ first.text ∧ Inert rest :=
  List.forall_mem_cons

@[simp]
theorem inert_append_iff {left right : List Span} :
    Inert (left ++ right) ↔ Inert left ∧ Inert right :=
  List.forall_mem_append

theorem inert_flatMap
    {α : Type} {parts : List α} {spans : α → List Span}
    (inert : ∀ part ∈ parts, Inert (spans part)) :
    Inert (parts.flatMap spans) := by
  intro span member
  obtain ⟨part, inParts, inSpans⟩ := List.mem_flatMap.mp member
  exact inert part inParts span inSpans

/-- What stands around the text of a styled span is deleted. -/
theorem withoutSequences_render
    {span : Span} (inert : '\x1b' ∉ span.text) (rest : Text) :
    withoutSequences (span.render true ++ rest) =
      span.render false ++ withoutSequences rest := by
  cases styled : span.style? with
  | none =>
      simp only [render, styled]
      exact withoutSequences_append inert rest
  | some style =>
      simp only [render, styled, if_true, List.append_assoc]
      rw [withoutSequences_sequence style.opening_mem_sequences, withoutSequences_append inert,
        withoutSequences_sequence Style.closing_mem_sequences]
      rfl

theorem withoutSequences_renderAll
    {spans : List Span} (inert : Inert spans) :
    withoutSequences (renderAll true spans) = renderAll false spans := by
  induction spans with
  | nil =>
      simp
  | cons first rest induction =>
      rw [inert_cons_iff] at inert
      rw [renderAll, List.flatMap_cons, withoutSequences_render inert.1, ← renderAll,
        induction inert.2]
      rfl

theorem not_mem_renderAll
    {spans : List Span} (inert : Inert spans) :
    '\x1b' ∉ renderAll false spans := by
  rw [renderAll_uncoloured, List.mem_flatMap]
  rintro ⟨span, inSpans, inText⟩
  exact inert span inSpans inText

end Span

/-! ## Texts that come from outside -/

theorem Encodes.inert
    {bytes : Bytes} {text : Text} (encodes : Encodes bytes text) (inert : 27 ∉ bytes) :
    '\x1b' ∉ text := by
  intro member
  have byte : (27 : UInt8) ∈ String.utf8EncodeChar '\x1b' := by
    decide
  rw [encodes] at inert
  exact inert (List.mem_flatMap_of_mem member byte)

theorem Conversation.inert
    {input : Bytes} {texts : List Text} {ending : Ending}
    (conversation : Conversation input texts ending) (inert : 27 ∉ input) :
    ∀ text ∈ texts, '\x1b' ∉ text := by
  induction conversation with
  | answered _ encodes _ _ _ induction =>
      rw [List.mem_append, not_or] at inert
      have whole := encodes.inert inert.1
      rw [List.mem_append, not_or] at whole
      intro text member
      rcases List.mem_cons.mp member with here | later
      · rw [here]
        exact whole.1
      · exact induction inert.2 text later
  | _ =>
      simp

theorem Lines.IsLineAround.inert
    {before after shown : Text} {character : Char}
    (around : Lines.IsLineAround before character after shown)
    (inert : '\x1b' ∉ before ++ character :: after) :
    '\x1b' ∉ shown := by
  obtain ⟨earlier, front, back, rest, beforeIs, afterIs, shownIs, _⟩ := around.inPlace
  intro member
  apply inert
  rw [beforeIs, afterIs]
  rw [shownIs] at member
  simp only [List.mem_append, List.mem_cons] at member ⊢
  tauto

/-! ## Faults of access -/

namespace Folder

variable {folder : Folder} {reason : Text}

/-- A folder has words of its own for every fault. -/
theorem enter_ne_other (place : Place) (name : Text) :
    folder.enter place name ≠ .error (.other reason) := by
  cases place with
  | file content =>
      simp [enter]
  | outside =>
      rw [enter]
      split
      · simp
      · split <;> simp
  | directory row =>
      rw [enter]
      split
      · simp
      · split
        · simp
        · split
          · simp
          · split <;> simp

theorem foldlM_enter_ne_other (row : List Text) (place : Place) :
    row.foldlM folder.enter place ≠ .error (.other reason) := by
  induction row generalizing place with
  | nil =>
      simp [pure, Except.pure]
  | cons name rest induction =>
      rw [List.foldlM_cons]
      cases entered : folder.enter place name with
      | error fault =>
          intro same
          apply enter_ne_other place name
          rw [entered]
          exact same
      | ok next =>
          exact induction next

theorem read_ne_other (path : Text) :
    folder.read path ≠ .error (.other reason) := by
  have followed : folder.follow path ≠ .error (.other reason) := by
    cases path with
    | nil =>
        simp [follow]
    | cons first rest =>
        rw [follow]
        split
        · simp
        · exact foldlM_enter_ne_other _ _
  rw [read]
  cases leads : folder.follow path with
  | error fault =>
      simpa [leads] using followed
  | ok place =>
      cases place <;> simp

end Folder

/-- The reason for a refusal holds no escape character, if the words of the system hold
none. -/
theorem IsRefused.inert
    {read : Text → Except AccessFault Bytes} {path reason : Text}
    (refused : IsRefused read path reason)
    (words : ∀ words, read path = .error (.other words) → '\x1b' ∉ words) :
    '\x1b' ∉ reason := by
  cases refused with
  | @unread fault content =>
      cases fault with
      | other reason => exact words reason content
      | _ => decide +kernel
  | undecodable _ _ =>
      decide +kernel

/-! ## Diagnostics -/

section Diagnostics

variable {message shown : Text} {location : Location}

theorem Location.inert
    (named : ∀ filename ∈ location.filename?, '\x1b' ∉ filename) :
    '\x1b' ∉ location.text := by
  have digits : '\x1b' ∉ Decimal.digits location.line := Decimal.not_mem_digits rfl _
  have word : '\x1b' ∉ "line ".toList := by
    decide +kernel
  rw [Location.text]
  cases filename? : location.filename? with
  | none =>
      simp only [List.mem_append, word, digits, or_self, not_false_eq_true]
  | some filename =>
      have name := named filename filename?
      simp [name, digits]

theorem inert_headline (inert : '\x1b' ∉ message) (location : Location) :
    Span.Inert (Failure.lexical message location).headline := by
  rw [Failure.headline, heading_lexical]
  simp [Failure.message, inert]

theorem inert_arrow (inert : '\x1b' ∉ location.text) :
    Span.Inert (Failure.arrow location) := by
  simp [Failure.arrow, inert]

theorem inert_gutter {label : Span} (inert : '\x1b' ∉ label.text) :
    Span.Inert (Failure.gutter label) := by
  simp [Failure.gutter, inert]

theorem inert_excerpt (line : Nat) (inert : '\x1b' ∉ shown) :
    Span.Inert (Failure.excerpt line shown) := by
  have numbered : Span.Inert (Failure.gutter (.styled .frame (Decimal.digits line))) :=
    inert_gutter (Decimal.not_mem_digits rfl line)
  have blank : Span.Inert (Failure.gutter
      (.plain (List.replicate (Decimal.digits line).length ' '))) := by
    apply inert_gutter
    simp [List.mem_replicate]
  simp [Failure.excerpt, blank, numbered, inert, List.mem_replicate]

theorem inert_contextDiagnostic
    (inertMessage : '\x1b' ∉ message) (inertLocation : '\x1b' ∉ location.text)
    (inertLine : '\x1b' ∉ shown) :
    Span.Inert (contextDiagnostic message location shown) := by
  rw [contextDiagnostic, Span.inert_append_iff, Span.inert_append_iff]
  exact ⟨⟨inert_headline inertMessage location, inert_arrow inertLocation⟩,
    inert_excerpt location.line inertLine⟩

end Diagnostics

/-! ## Complaints of a run -/

/-- No message of a reported fault holds an escape character, whatever the source
text holds. -/
theorem inert_wording
    {source : Text} {located : LocatedFault} (reported : located ∈ (scan source).faults) :
    '\x1b' ∉ located.fault.wording := by
  obtain ⟨before, offender, after, offence⟩ := exists_offence reported
  rw [← Fault.message_eq_wording]
  intro member
  cases offence.blames.isControl_eq_false_of_mem_message member

theorem inert_faultComplaints
    {filename? : Option Text} {source : Text}
    (named : ∀ filename ∈ filename?, '\x1b' ∉ filename) (inert : '\x1b' ∉ source) :
    Span.Inert (faultComplaints filename? source) := by
  apply Span.inert_flatMap
  intro located reported
  obtain ⟨before, offender, after, offence, around⟩ := exists_offence_on_line reported
  rw [diagnostic_of_mem_faults reported]
  rw [offence.division] at inert
  exact inert_contextDiagnostic (inert_wording reported) (Location.inert named)
    (around.inert inert)

theorem inert_access {message : Text} (inert : '\x1b' ∉ message) :
    Span.Inert ((Failure.access message).diagnostic none) := by
  have heading : (Failure.access message).heading = "I/O Error".toList :=
    rfl
  simp [Failure.diagnostic, Failure.headline, Failure.location?, Failure.message, heading,
    inert]

theorem inert_refusal
    {path reason : Text} (inertPath : '\x1b' ∉ path) (inertReason : '\x1b' ∉ reason) :
    '\x1b' ∉ refusal path reason := by
  have around : '\x1b' ∉ "Failed to read file '".toList ++ "': ".toList := by
    decide +kernel
  rw [List.mem_append, not_or] at around
  rw [refusal_eq, List.mem_append, List.mem_append, List.mem_append, not_or, not_or, not_or]
  exact ⟨⟨⟨around.1, inertPath⟩, around.2⟩, inertReason⟩

theorem inert_complaint (ending : Ending) :
    Span.Inert ending.complaint := by
  cases ending with
  | undecodable => exact inert_access (by decide +kernel)
  | exhausted => exact Span.inert_nil
  | emptyLine => exact Span.inert_nil

/-- Whatever a command line comes to, the complaints are the same spans in colour and
without, and only text from outside can bring escape characters into them. -/
theorem exists_inert_complaints
    {arguments : List Text} {read : Text → Except AccessFault Bytes} {input : Bytes}
    (inertScript : ∀ path, arguments = [path] → '\x1b' ∉ path ∧
      (∀ content, read path = .ok content → 27 ∉ content) ∧
      ∀ words, read path = .error (.other words) → '\x1b' ∉ words)
    (inertInput : arguments = [] → 27 ∉ input) :
    ∃ complaints : List Span, Span.Inert complaints ∧
      ∀ coloured, (Program.outcome arguments read input coloured).errorOutput =
        Span.renderAll coloured complaints := by
  rcases arguments with _ | ⟨path, _ | ⟨second, rest⟩⟩
  · obtain ⟨texts, ending, conversation⟩ := Conversation.exists_of_input input
    refine ⟨texts.flatMap (faultComplaints none) ++ ending.complaint, ?_, ?_⟩
    · rw [Span.inert_append_iff]
      refine ⟨Span.inert_flatMap ?_, inert_complaint ending⟩
      intro text member
      exact inert_faultComplaints (by simp)
        (conversation.inert (inertInput rfl) text member)
    · intro coloured
      rw [outcome_of_conversation conversation]
  · obtain ⟨inertPath, inertContent, inertWords⟩ := inertScript path rfl
    obtain ⟨source, script⟩ | ⟨reason, refused⟩ := script_or_refused read path
    · refine ⟨faultComplaints (some path) source, ?_, ?_⟩
      · obtain ⟨content, isContent, encodes⟩ := script
        exact inert_faultComplaints (by simpa using inertPath)
          (encodes.inert (inertContent content isContent))
      · intro coloured
        rw [outcome_of_script script]
    · refine ⟨(Failure.access (refusal path reason)).diagnostic none, ?_, ?_⟩
      · exact inert_access (inert_refusal inertPath (refused.inert inertWords))
      · intro coloured
        rw [outcome_of_refused refused]
  · refine ⟨[.plain "Usage: loxbagel [script]\n".toList], by simp, ?_⟩
    intro coloured
    rw [run_misuse (by simp)]
    simp [Span.renderAll]

/-- The settings of colour have no influence on what a run prints and on its exit
status, be it on a terminal or not.  Where neither the script nor its path nor the
input holds an escape character, coloured complaints without their control sequences
are the complaints of a run without colour, which hold no escape character at all.
The words of the system are assumed to hold none either; a folder needs none. -/
theorem colour_changes_appearance_only
    (arguments : List Text) (read : Text → Except AccessFault Bytes) (input : Bytes)
    (terminal : Bool) (settings other : ColourSettings) :
    (Program.outcome arguments read input (settings.coloured terminal)).output =
        (Program.outcome arguments read input (other.coloured terminal)).output ∧
    (Program.outcome arguments read input (settings.coloured terminal)).exitStatus =
        (Program.outcome arguments read input (other.coloured terminal)).exitStatus ∧
    ((∀ path, arguments = [path] → '\x1b' ∉ path ∧
        (∀ content, read path = .ok content → 27 ∉ content) ∧
        ∀ words, read path = .error (.other words) → '\x1b' ∉ words) →
      (arguments = [] → 27 ∉ input) →
      settings.coloured terminal = true → other.coloured terminal = false →
      withoutSequences
          (Program.outcome arguments read input (settings.coloured terminal)).errorOutput =
          (Program.outcome arguments read input (other.coloured terminal)).errorOutput ∧
        '\x1b' ∉
          (Program.outcome arguments read input (other.coloured terminal)).errorOutput) ∧
    ∀ (folder : Folder) path words, folder.read path ≠ .error (.other words) := by
  refine ⟨rfl, rfl, ?_, fun _ path _ => Folder.read_ne_other path⟩
  intro inertScript inertInput coloured uncoloured
  obtain ⟨complaints, inert, shown⟩ := exists_inert_complaints inertScript inertInput
  rw [shown, shown, coloured, uncoloured]
  exact ⟨Span.withoutSequences_renderAll inert, Span.not_mem_renderAll inert⟩

/-- The complaint about a single rejected character on a terminal, in colour and with
colour switched off. -/
theorem colour_changes_appearance_only_stray :
    let script := Program.outcome ["script".toList] (Folder.ofScript ['@']).read []
    let coloured := (script (ColourSettings.coloured ⟨none, none, none⟩ true)).errorOutput
    let plain := (script (ColourSettings.coloured ⟨none, some ['0'], none⟩ true)).errorOutput
    coloured ≠ plain ∧ withoutSequences coloured = plain ∧ '\x1b' ∉ plain := by
  have inertScript : ∀ path, ["script".toList] = [path] → '\x1b' ∉ path ∧
      (∀ content, (Folder.ofScript ['@']).read path = .ok content → 27 ∉ content) ∧
      ∀ words, (Folder.ofScript ['@']).read path = .error (.other words) →
        '\x1b' ∉ words := by
    intro path isPath
    rw [← (List.cons.inj isPath).1]
    refine ⟨by decide +kernel, ?_, fun words found => absurd found (Folder.read_ne_other _)⟩
    intro content found
    have holds : (Folder.ofScript ['@']).read "script".toList = .ok [64] := rfl
    rw [holds] at found
    rw [← Except.ok.inj found]
    decide
  refine ⟨by decide +kernel, ?_⟩
  exact (colour_changes_appearance_only _ _ _ true _ _).2.2.1 inertScript
    (fun none => absurd none (List.cons_ne_nil _ _)) rfl rfl

end LoxLexer
