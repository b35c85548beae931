import LoxLexer.Proofs.Encoding
import LoxLexer.Proofs.Lines
import LoxLexer.Proofs.Row

/-!
# Lines of input

Input comes as bytes and is cut behind every byte of a line feed.  No other
character has that byte in its encoding in front of the end of the line, so the
text of a line, without what ends it, is unbroken.
-/

namespace LoxLexer

/-! ## Lines of input -/

/-- A line of input in front of what is still to come: it ends with its only line
feed, or it has none and the input ends with it. -/
inductive IsLine : Bytes → Bytes → Prop where
  | closed {body : Bytes} (later : Bytes) : 10 ∉ body → IsLine (body ++ [10]) later
  | last {line : Bytes} : line ≠ [] → 10 ∉ line → IsLine line []

namespace IsLine

variable {line later other rest : Bytes}

theorem ne_nil (isLine : IsLine line later) :
    line ≠ [] := by
  cases isLine with
  | closed later inside => simp
  | last present inside => exact present

theorem noFeed_eq_false {body : Bytes} (absent : 10 ∉ body) :
    ∀ byte ∈ body, (byte == 10) = false := by
  intro byte member
  rw [beq_eq_false_iff_ne]
  rintro rfl
  exact absent member

theorem lines_append (isLine : IsLine line later) :
    Bytes.lines (line ++ later) = line :: Bytes.lines later := by
  unfold Bytes.lines
  cases isLine with
  | closed later inside =>
      rw [List.append_assoc, List.singleton_append]
      exact Lines.cut_line (noFeed_eq_false inside) rfl
  | last present inside =>
      rw [List.append_nil, Lines.cut_nil]
      exact Lines.cut_last present (noFeed_eq_false inside)

theorem unique (isLine : IsLine line later) (isOther : IsLine other rest)
    (joined : line ++ later = other ++ rest) :
    line = other ∧ later = rest := by
  have cuts := isLine.lines_append
  rw [joined, isOther.lines_append] at cuts
  obtain rfl := (List.cons.inj cuts).1
  exact ⟨rfl, List.append_cancel_left joined⟩

/-- Where a line feed ends the input, every line of it is closed, whatever is
appended. -/
theorem append (isLine : IsLine line later)
    (ends : (line ++ later).getLast? = some 10) (more : Bytes) :
    IsLine line (later ++ more) := by
  cases isLine with
  | closed later inside =>
      exact .closed (later ++ more) inside
  | last present inside =>
      rw [List.append_nil] at ends
      exact absurd (List.mem_of_getLast? ends) inside

/-- Behind a line feed a line holds nothing. -/
theorem eq_nil_of_feed {front back : Bytes} (isLine : IsLine (front ++ 10 :: back) later) :
    back = [] := by
  generalize joined : front ++ 10 :: back = line at isLine
  cases isLine with
  | closed later inside =>
      rcases List.eq_nil_or_concat back with rfl | ⟨initial, final, rfl⟩
      · rfl
      · rw [List.concat_eq_append, ← List.cons_append, ← List.append_assoc] at joined
        have same := (List.append_inj' joined rfl).1
        exact absurd (same ▸ by simp) inside
  | last present inside =>
      exact absurd (joined ▸ by simp) inside

end IsLine

theorem exists_isLine {input : Bytes} (present : input ≠ []) :
    ∃ line later, IsLine line later ∧ input = line ++ later := by
  by_cases feed : 10 ∈ input
  · obtain ⟨body, later, rfl, inside⟩ := List.eq_append_cons_of_mem feed
    refine ⟨body ++ [10], later, .closed later inside, ?_⟩
    rw [List.append_assoc, List.singleton_append]
  · exact ⟨input, [], .last present feed, (List.append_nil input).symm⟩

/-! ## Endings of lines -/

/-- Nothing but carriage returns and line feeds. -/
def IsLineEnd (text : Text) : Prop :=
  ∀ character ∈ text, character = '\r' ∨ character = '\n'

/-- A text that ends with neither a carriage return nor a line feed. -/
def IsTrimmed (text : Text) : Prop :=
  ∃ body last, text = body ++ [last] ∧ last ≠ '\r' ∧ last ≠ '\n'

theorem IsTrimmed.ne_nil {text : Text} (trimmed : IsTrimmed text) :
    text ≠ [] := by
  obtain ⟨body, last, rfl, _, _⟩ := trimmed
  simp

theorem trimmed_append
    {text lineEnd : Text} (stops : text = [] ∨ IsTrimmed text)
    (isEnd : IsLineEnd lineEnd) :
    Lines.trimmed (text ++ lineEnd) = text := by
  have inside : ∀ character ∈ lineEnd.reverse,
      (character == '\n' || character == '\r') = true := by
    intro character member
    rcases isEnd character (List.mem_reverse.mp member) with rfl | rfl
    · rfl
    · rfl
  have stopsHere : ∀ character ∈ text.reverse.head?,
      (character == '\n' || character == '\r') = false := by
    rcases stops with rfl | ⟨body, last, rfl, notReturn, notFeed⟩
    · simp
    · simp [notReturn, notFeed]
  rw [Lines.trimmed, List.reverse_append, dropWhile_append_of_head inside stopsHere,
    List.reverse_reverse]

/-- The text of a line falls into what is answered and how it ends. -/
theorem exists_trimmed (text : Text) :
    ∃ front lineEnd, text = front ++ lineEnd ∧ IsLineEnd lineEnd ∧
      (front = [] ∨ IsTrimmed front) := by
  let member := fun character => character == '\n' || character == '\r'
  have joined : text.rdropWhile member ++ text.rtakeWhile member = text :=
    List.rdropWhile_append_rtakeWhile
  refine ⟨text.rdropWhile member, text.rtakeWhile member, joined.symm, ?_, ?_⟩
  · intro character found
    have isMember := List.mem_rtakeWhile_imp found
    simpa [member, or_comm] using isMember
  · by_cases empty : text.rdropWhile member = []
    · exact Or.inl empty
    · have stopped := List.rdropWhile_last_not member text empty
      refine Or.inr ⟨_, _, (List.dropLast_concat_getLast empty).symm, ?_⟩
      simpa [member, not_or, and_comm] using stopped

/-- A line feed in a line of input ends it. -/
theorem IsLine.unbroken
    {line later : Bytes} {text lineEnd : Text} (isLine : IsLine line later)
    (encodes : Encodes line (text ++ lineEnd)) (trimmed : IsTrimmed text) :
    '\n' ∉ text := by
  intro member
  obtain ⟨front, back, divided⟩ := List.append_of_mem member
  have more : back ≠ [] := by
    rintro rfl
    obtain ⟨body, last, rfl, _, notFeed⟩ := trimmed
    obtain ⟨_, same⟩ := List.append_inj' divided rfl
    exact notFeed (List.cons.inj same).1
  have bytes : line = front.flatMap String.utf8EncodeChar ++
      10 :: (back ++ lineEnd).flatMap String.utf8EncodeChar := by
    rw [encodes, divided, List.append_assoc, List.flatMap_append, List.cons_append,
      List.flatMap_cons]
    rfl
  rw [bytes] at isLine
  have nothing := flatMap_utf8EncodeChar_eq_nil_iff.mp isLine.eq_nil_of_feed
  exact more (List.append_eq_nil_iff.mp nothing).1

end LoxLexer
