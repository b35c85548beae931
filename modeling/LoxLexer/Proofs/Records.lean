import LoxLexer.Proofs.Log
import LoxLexer.Proofs.Unescaping

/-!
# Records as text

What is logged of a scan never breaks a line: the user's own characters stand in it as
escapes only, and all else is words and digits.  The text of a token's record is read
from the front: its line ends at the colon, its kind at the space, and the rest is the
quoted lexeme.
-/

namespace LoxLexer

/-! ## Texts without control characters -/

/-- A text that a control character neither breaks nor changes. -/
def FreeOfControls (text : Text) : Prop :=
  ∀ character ∈ text, Character.isControl character = false

instance (text : Text) : Decidable (FreeOfControls text) :=
  decidable_of_iff (text.any Character.isControl = false) (by simp [FreeOfControls])

theorem freeOfControls_append_iff {left right : Text} :
    FreeOfControls (left ++ right) ↔ FreeOfControls left ∧ FreeOfControls right :=
  List.forall_mem_append

theorem freeOfControls_digits (number : Nat) :
    FreeOfControls (Decimal.digits number) := by
  intro digit member
  exact Escape.isControl_eq_false_of_mem_hexDigits digit
    (Escape.mem_hexDigits_of_mem_toDigits (by decide) (by decide) member)

theorem Escape.freeOfControls_quoted (body : Text) :
    FreeOfControls (quoted body) := by
  have escaped : FreeOfControls (body.flatMap textCharacter) := by
    intro character found
    obtain ⟨member, _, written⟩ := List.mem_flatMap.mp found
    by_cases single : member = '\x27'
    · rw [textCharacter, if_pos single, single, List.mem_singleton] at written
      rw [written]
      decide
    · rw [textCharacter, if_neg single] at written
      exact isControl_eq_false_of_mem_character written
  have mark : FreeOfControls ['"'] := by
    decide
  rw [quoted, ← List.singleton_append, freeOfControls_append_iff, freeOfControls_append_iff]
  exact ⟨⟨mark, escaped⟩, mark⟩

/-! ## Names of kinds -/

namespace Kind

theorem ofName?_name (kind : Kind) :
    (all.find? fun other => other.name == kind.name) = some kind := by
  have table : ∀ kind ∈ all,
      (all.find? fun other => other.name == kind.name) = some kind := by
    decide +kernel
  exact table kind kind.mem_all

theorem isWordCharacter_of_mem_name {kind : Kind} {character : Char}
    (member : character ∈ kind.name) :
    Character.isWordCharacter character = true := by
  have table : (all.all fun kind => kind.name.all Character.isWordCharacter) = true := by
    decide +kernel
  simp only [List.all_eq_true] at table
  exact table kind kind.mem_all character member

theorem spaceless_name (kind : Kind) :
    ' ' ∉ kind.name := by
  intro member
  cases isWordCharacter_of_mem_name member

theorem freeOfControls_name (kind : Kind) :
    FreeOfControls kind.name := by
  have table : (all.all fun kind => FreeOfControls kind.name) = true := by
    decide +kernel
  simp only [List.all_eq_true, decide_eq_true_eq] at table
  exact table kind kind.mem_all

end Kind

/-! ## Records on one line -/

namespace Record

theorem onLine_eq (line : Nat) (remark : Text) :
    onLine line remark =
      "line ".toList ++ Decimal.digits line ++ [':', ' '] ++ remark :=
  rfl

theorem freeOfControls_onLine (line : Nat) {remark : Text} (free : FreeOfControls remark) :
    FreeOfControls (onLine line remark) := by
  have word : FreeOfControls "line ".toList := by
    decide +kernel
  have colon : FreeOfControls [':', ' '] := by
    decide
  rw [onLine_eq, freeOfControls_append_iff, freeOfControls_append_iff,
    freeOfControls_append_iff]
  exact ⟨⟨⟨word, freeOfControls_digits line⟩, colon⟩, free⟩

theorem freeOfControls_ofToken (token : Token) :
    FreeOfControls (ofToken token).message := by
  have space : FreeOfControls [' '] := by
    decide
  apply freeOfControls_onLine
  rw [← List.singleton_append, freeOfControls_append_iff, freeOfControls_append_iff]
  exact ⟨token.kind.freeOfControls_name, space, Escape.freeOfControls_quoted token.lexeme⟩

theorem freeOfControls_summaries (characters tokens lastLine warnings : Nat) :
    ∀ record ∈ summaries characters tokens lastLine warnings,
      FreeOfControls record.message := by
  intro record member
  simp only [summaries, List.mem_cons, List.not_mem_nil, or_false] at member
  rcases member with scanned | produced
  · rw [scanned]
    simp only [freeOfControls_append_iff, freeOfControls_digits, and_true]
    decide +kernel
  · rw [produced]
    simp only [freeOfControls_append_iff, freeOfControls_digits, and_true]
    decide +kernel

end Record

theorem freeOfControls_message
    {source : Text} {located : LocatedFault} (member : located ∈ (scan source).faults) :
    FreeOfControls located.fault.message := by
  obtain ⟨_, _, _, offence⟩ := exists_offence member
  intro character found
  exact offence.blames.isControl_eq_false_of_mem_message found

theorem Record.freeOfControls_ofEvent
    {source : Text} {event : Event} (member : event ∈ (scan source).events) :
    FreeOfControls (ofEvent event).message := by
  cases event with
  | token found =>
      exact freeOfControls_ofToken found
  | fault located =>
      exact freeOfControls_onLine _
        (freeOfControls_message (List.mem_filterMap.mpr ⟨_, member, rfl⟩))

/-! ## Records read back -/

namespace Record

theorem onLine_unique {line other : Nat} {remark otherRemark : Text}
    (same : onLine line remark = onLine other otherRemark) :
    line = other ∧ remark = otherRemark := by
  rw [onLine_eq, onLine_eq, List.append_assoc, List.append_assoc, List.append_assoc,
    List.append_assoc] at same
  obtain ⟨lines, later⟩ := Decimal.digits_unique rfl (List.append_cancel_left same)
  exact ⟨lines, (List.cons.inj later).2⟩

/-- The record of a token tells its line, its kind and its lexeme. -/
theorem ofToken_eq_iff {left right : Token} :
    ofToken left = ofToken right ↔
      left.line = right.line ∧ left.kind = right.kind ∧ left.lexeme = right.lexeme := by
  constructor
  · intro same
    obtain ⟨_, messages⟩ := Record.mk.inj same
    obtain ⟨lines, remarks⟩ := onLine_unique messages
    obtain ⟨kinds, later⟩ :=
      Kind.unique_of_joined Kind.ofName?_name Kind.spaceless_name remarks
    exact ⟨lines, kinds, Escape.quoted_injective later⟩
  · intro ⟨lines, kinds, lexemes⟩
    rw [ofToken, lines, kinds, lexemes, ofToken]

end Record

theorem Fault.unexpectedCharacter_message_eq_iff {left right : Char} :
    (unexpectedCharacter left).message = (unexpectedCharacter right).message ↔
      left = right := by
  constructor
  · intro same
    rw [message_unexpectedCharacter, message_unexpectedCharacter, List.append_assoc,
      List.append_assoc] at same
    exact (Escape.character_unique (List.append_cancel_left same)).1
  · intro same
    rw [same]

/-- Whatever stands in strings and whatever characters are rejected, no record of a run
and no message of a fault holds a control character.  Records of tokens are the same only
for tokens of one line, kind and lexeme, and messages about characters only for one
character. -/
theorem records_stay_on_line_and_tell_apart :
    (∀ source, ∀ located ∈ (scan source).faults, ∀ character ∈ located.fault.message,
      Character.isControl character = false) ∧
    (∀ session : Session, ∀ source, ∀ record ∈ (session.run source).records,
      ∀ character ∈ record.message, Character.isControl character = false) ∧
    (∀ left right : Token, Record.ofToken left = Record.ofToken right ↔
      left.line = right.line ∧ left.kind = right.kind ∧ left.lexeme = right.lexeme) ∧
    ∀ left right : Char,
      (Fault.unexpectedCharacter left).message =
          (Fault.unexpectedCharacter right).message ↔
        left = right := by
  refine ⟨fun source located => freeOfControls_message, ?_,
    fun left right => Record.ofToken_eq_iff,
    fun left right => Fault.unexpectedCharacter_message_eq_iff⟩
  intro session source record member
  rw [Session.records_run, List.mem_append] at member
  rcases member with told | summary
  · obtain ⟨event, found, same⟩ := List.mem_map.mp told
    rw [← same, ← Record.ofEvent_eq_record]
    exact Record.freeOfControls_ofEvent found
  · exact Record.freeOfControls_summaries _ _ _ _ record summary

end LoxLexer
