import LoxLexer.Proofs.History
import LoxLexer.Proofs.Unescaping

/-!
# The text of a failure tells the failure

A file name stands in the text of a failure as it is, so it can look like the end of a
message, like a line number, or like a place without a name.  Still the text is read in
one way only: a message of a scan marks its own end, and behind it the last colon, if
there is any, stands in front of the line.
-/

namespace LoxLexer

/-! ## Locations -/

/-- What stands behind the last boundary of a text is told by the text. -/
theorem last_delimited_unique
    {boundary : Char} {left right behind rest : Text}
    (absent : boundary ∉ behind) (absentRight : boundary ∉ rest)
    (joined : left ++ boundary :: behind = right ++ boundary :: rest) :
    left = right ∧ behind = rest := by
  have turned : behind.reverse ++ boundary :: left.reverse =
      rest.reverse ++ boundary :: right.reverse := by
    simpa using congrArg List.reverse joined
  obtain ⟨ends, fronts⟩ := delimited_unique (mt List.mem_reverse.mp absent)
    (mt List.mem_reverse.mp absentRight) turned
  exact ⟨List.reverse_inj.mp fronts, List.reverse_inj.mp ends⟩

namespace Location

theorem noColon_digits (line : Nat) :
    ':' ∉ Decimal.digits line :=
  Decimal.not_mem_digits rfl line

/-- Only a file name brings a colon into the text of a location. -/
theorem text_named_ne_unnamed (line other : Nat) (filename : Text) :
    (Location.mk line (some filename)).text ≠ (Location.mk other none).text := by
  intro same
  have word : ':' ∉ "line ".toList := by
    decide +kernel
  have colon : ':' ∈ (Location.mk line (some filename)).text :=
    List.mem_append_right filename (List.mem_cons_self ..)
  rw [same] at colon
  exact List.not_mem_append word (noColon_digits other) colon

theorem text_injective {left right : Location} (same : left.text = right.text) :
    left = right := by
  obtain ⟨line, filename?⟩ := left
  obtain ⟨other, otherFilename?⟩ := right
  cases filename? with
  | none =>
      cases otherFilename? with
      | none =>
          have digits : Decimal.digits line = Decimal.digits other :=
            List.append_cancel_left same
          rw [Decimal.digits_injective digits]
      | some filename =>
          exact absurd same.symm (text_named_ne_unnamed other line filename)
  | some filename =>
      cases otherFilename? with
      | none =>
          exact absurd same (text_named_ne_unnamed line other filename)
      | some otherFilename =>
          obtain ⟨names, digits⟩ :=
            last_delimited_unique (noColon_digits line) (noColon_digits other) same
          rw [names, Decimal.digits_injective digits]

theorem text_eq_iff {left right : Location} :
    left.text = right.text ↔
      left.line = right.line ∧ left.filename? = right.filename? := by
  rw [← Location.mk.injEq]
  exact ⟨text_injective, congrArg Location.text⟩

end Location

/-! ## Messages -/

namespace Fault

/-- The third character tells the two messages of a scan apart. -/
theorem message_unexpected_ne_unterminated (character : Char) (behind rest : Text) :
    (unexpectedCharacter character).message ++ behind ≠
      unterminatedString.message ++ rest := by
  intro same
  have third := congrArg (fun text => text[2]?) same
  have unexpected :
      ((unexpectedCharacter character).message ++ behind)[2]? = some 'e' :=
    rfl
  have unterminated : (unterminatedString.message ++ rest)[2]? = some 't' :=
    rfl
  rw [unexpected, unterminated] at third
  cases third

/-- The message of a reported fault marks its own end, whatever follows. -/
theorem Blames.message_unique
    {fault other : Fault} {offender otherOffender : Char} {behind rest : Text}
    (blames : fault.Blames offender) (blamesOther : other.Blames otherOffender)
    (joined : fault.message ++ behind = other.message ++ rest) :
    fault = other ∧ behind = rest := by
  rcases blames with ⟨unexpected, _⟩ | ⟨unterminated, _⟩
  · rcases blamesOther with ⟨unexpectedOther, _⟩ | ⟨unterminatedOther, _⟩
    · rw [unexpected, unexpectedOther, message_unexpectedCharacter,
        message_unexpectedCharacter] at joined
      simp only [List.append_assoc] at joined
      obtain ⟨same, later⟩ :=
        Escape.character_unique (List.append_cancel_left joined)
      rw [unexpected, unexpectedOther, same]
      exact ⟨rfl, List.append_cancel_left later⟩
    · rw [unexpected, unterminatedOther] at joined
      exact absurd joined (message_unexpected_ne_unterminated offender behind rest)
  · rcases blamesOther with ⟨unexpectedOther, _⟩ | ⟨unterminatedOther, _⟩
    · rw [unterminated, unexpectedOther] at joined
      exact absurd joined.symm (message_unexpected_ne_unterminated otherOffender rest behind)
    · rw [unterminated, unterminatedOther] at joined ⊢
      exact ⟨rfl, List.append_cancel_left joined⟩

end Fault

theorem Failure.text_lexical (message : Text) (location : Location) :
    (lexical message location).text =
      "Lexer Error: ".toList ++ message ++ " at ".toList ++ location.text := by
  have heading : "Lexer Error: ".toList = "Lexer Error".toList ++ ": ".toList :=
    rfl
  rw [heading, List.append_assoc _ " at ".toList]
  rfl

/-! ## Failures on record -/

namespace Session

/-- A failure on record is about a fault that some character is to blame for. -/
theorem exists_blames_of_mem_failures
    {filename? : Option Text} {steps : List Step} {failure : Failure}
    (recorded : failure ∈ ((new filename?).behind steps).failures) :
    ∃ (fault : Fault) (offender : Char) (line : Nat),
      failure = .lexical fault.message ⟨line, filename?⟩ ∧ fault.Blames offender := by
  rw [((recalls_new filename?).behind steps).failures, List.nil_append, failuresOnRecord,
    List.mem_flatMap] at recorded
  obtain ⟨source, _, recorded⟩ := recorded
  obtain ⟨located, reported, same⟩ := List.mem_map.mp recorded
  obtain ⟨_, offender, _, offence⟩ := exists_offence reported
  refine ⟨located.fault, offender, located.line, ?_, offence.blames⟩
  rw [← same, located.fault.message_eq_wording]

/-- Two failures that sessions have on record are shown by one text just where they agree
in message, line and file name, be the name absent, empty or like the rest of the text.
The text of the location alone tells line and file name. -/
theorem text_identifies_failure
    {filename? otherFilename? : Option Text} {steps otherSteps : List Step}
    {failure other : Failure}
    (recorded : failure ∈ ((new filename?).behind steps).failures)
    (recordedOther : other ∈ ((new otherFilename?).behind otherSteps).failures) :
    (∃ line otherLine,
      failure.text = "Lexer Error: ".toList ++ failure.message ++ " at ".toList ++
        (Location.mk line filename?).text ∧
      failure.location? = some ⟨line, filename?⟩ ∧
      other.location? = some ⟨otherLine, otherFilename?⟩ ∧
      (failure.text = other.text ↔
        failure.message = other.message ∧ line = otherLine ∧
          filename? = otherFilename?)) ∧
    ∀ left right : Location, left.text = right.text ↔
      left.line = right.line ∧ left.filename? = right.filename? := by
  obtain ⟨fault, offender, line, shown, blames⟩ := exists_blames_of_mem_failures recorded
  obtain ⟨otherFault, otherOffender, otherLine, shownOther, blamesOther⟩ :=
    exists_blames_of_mem_failures recordedOther
  rw [shown, shownOther]
  refine ⟨⟨line, otherLine, Failure.text_lexical _ _, rfl, rfl, ?_⟩,
    fun left right => Location.text_eq_iff⟩
  rw [Failure.text_lexical, Failure.text_lexical]
  constructor
  · intro same
    simp only [List.append_assoc] at same
    obtain ⟨faults, later⟩ :=
      blames.message_unique blamesOther (List.append_cancel_left same)
    obtain ⟨lines, filenames⟩ := Location.text_eq_iff.mp (List.append_cancel_left later)
    rw [faults]
    exact ⟨rfl, lines, filenames⟩
  · intro ⟨messages, lines, filenames⟩
    have sameMessage : fault.message = otherFault.message := messages
    rw [sameMessage, lines, filenames]

/-- A file name that looks like the end of a failure's text does not hide its line. -/
theorem text_identifies_failure_lookalike :
    Failure.lexical "Unexpected character '@'.".toList ⟨1, some "line 2".toList⟩ ∈
        ((new (some "line 2".toList)).behind [.run "@".toList]).failures ∧
      Failure.lexical "Unexpected character '@'.".toList ⟨2, none⟩ ∈
        ((new none).behind [.run "\n@".toList]).failures ∧
      Failure.text (.lexical "Unexpected character '@'.".toList
          ⟨1, some "line 2".toList⟩) ≠
        Failure.text (.lexical "Unexpected character '@'.".toList ⟨2, none⟩) := by
  have recorded :
      Failure.lexical "Unexpected character '@'.".toList ⟨1, some "line 2".toList⟩ ∈
        ((new (some "line 2".toList)).behind [.run "@".toList]).failures := by
    decide +kernel
  have recordedOther :
      Failure.lexical "Unexpected character '@'.".toList ⟨2, none⟩ ∈
        ((new none).behind [.run "\n@".toList]).failures := by
    decide +kernel
  refine ⟨recorded, recordedOther, fun same => ?_⟩
  obtain ⟨⟨line, otherLine, _, _, _, told⟩, _⟩ :=
    text_identifies_failure recorded recordedOther
  have names := (told.mp same).2.2
  cases names

end Session
end LoxLexer
