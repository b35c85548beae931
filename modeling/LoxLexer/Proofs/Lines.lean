import LoxLexer.Lines
import Mathlib.Data.List.DropRight

/-!
# Where lines begin and end

Cutting a text into lines is told by the line feeds alone: a closed line in front
is cut off, and what follows is cut as if it stood alone.  The line around a
character is found at the index that counts the line feeds before it.
-/

namespace LoxLexer
namespace Lines

universe u

/-! ## Cutting line by line -/

section Cut

variable {α : Type u} {ends : α → Bool} {source body front rest : List α} {closing : α}

theorem cut_ne_nil (present : source ≠ []) :
    cut ends source ≠ [] := by
  intro none
  apply present
  rw [← flatten_cut ends source, none]
  rfl

theorem cut_line
    (inside : ∀ element ∈ body, ends element = false) (closes : ends closing = true) :
    cut ends (body ++ closing :: rest) = (body ++ [closing]) :: cut ends rest := by
  induction body with
  | nil =>
      simp [cut_cons, prepend, closes]
  | cons head tail induction =>
      have inner := inside head (List.mem_cons_self ..)
      have later := induction fun element member =>
        inside element (List.mem_cons_of_mem head member)
      rw [List.cons_append, cut_cons, later]
      simp [prepend, inner]

theorem cut_last
    (present : body ≠ []) (inside : ∀ element ∈ body, ends element = false) :
    cut ends body = [body] := by
  induction body with
  | nil =>
      exact absurd rfl present
  | cons head tail induction =>
      have inner := inside head (List.mem_cons_self ..)
      by_cases last : tail = []
      · subst tail
        simp [cut_cons, prepend, inner]
      · have later := induction last fun element member =>
          inside element (List.mem_cons_of_mem head member)
        rw [cut_cons, later]
        simp [prepend, inner]

/-- Only the last element of a line can close it. -/
theorem ends_eq_false_of_mem_dropLast
    {line : List α} {element : α} (isLine : line ∈ cut ends source)
    (member : element ∈ line.dropLast) :
    ends element = false := by
  induction source generalizing line with
  | nil =>
      cases isLine
  | cons head tail induction =>
      rw [cut_cons] at isLine
      unfold prepend at isLine
      cases closes : ends head with
      | true =>
          rw [if_pos closes] at isLine
          rcases List.mem_cons.mp isLine with rfl | later
          · cases member
          · exact induction later member
      | false =>
          rw [if_neg (Bool.eq_false_iff.mp closes)] at isLine
          cases lines : cut ends tail with
          | nil =>
              rw [lines] at isLine
              rw [List.mem_singleton.mp isLine] at member
              cases member
          | cons first others =>
              rw [lines] at isLine induction
              rcases List.mem_cons.mp isLine with rfl | later
              · cases first with
                | nil =>
                    cases member
                | cons second inner =>
                    rw [List.dropLast_cons_cons] at member
                    rcases List.mem_cons.mp member with rfl | inFirst
                    · exact closes
                    · exact induction (List.mem_cons_self ..) inFirst
              · exact induction (List.mem_cons_of_mem first later) member

/-- Nothing, or what ends where a line ends. -/
def Closed (ends : α → Bool) (source : List α) : Prop :=
  ∀ last ∈ source.getLast?, ends last = true

theorem Closed.tail
    {head : α} (closed : Closed ends (head :: source)) (present : source ≠ []) :
    Closed ends source := by
  intro last found
  have same : (head :: source).getLast? = source.getLast? :=
    List.getLast?_cons_of_ne_nil present
  exact closed last (same ▸ found)

theorem cut_append (closed : Closed ends front) :
    cut ends (front ++ rest) = cut ends front ++ cut ends rest := by
  induction front with
  | nil =>
      rfl
  | cons head tail induction =>
      rw [List.cons_append, cut_cons, cut_cons]
      by_cases last : tail = []
      · subst tail
        have closes : ends head = true := closed head rfl
        simp [prepend, closes]
      · rw [induction (closed.tail last)]
        have remains : cut ends tail ≠ [] := cut_ne_nil last
        obtain ⟨line, others, lines⟩ := List.exists_cons_of_ne_nil remains
        rw [lines]
        unfold prepend
        split <;> rfl

theorem length_cut (closed : Closed ends source) :
    (cut ends source).length = source.countP ends := by
  induction source with
  | nil =>
      rfl
  | cons head tail induction =>
      rw [cut_cons, List.countP_cons]
      by_cases last : tail = []
      · subst tail
        have closes : ends head = true := closed head rfl
        simp [prepend, closes]
      · rw [← induction (closed.tail last)]
        have remains : cut ends tail ≠ [] := cut_ne_nil last
        obtain ⟨line, others, lines⟩ := List.exists_cons_of_ne_nil remains
        rw [lines]
        unfold prepend
        split <;> simp_all

end Cut

/-! ## Endings of lines -/

/-- What stands behind the visible part of a line: nothing, or a line feed, which
takes along one carriage return directly before it. -/
inductive EndsLine (shown : Text) : Text → Prop where
  | atEnd : EndsLine shown []
  | lineFeed (later : Text) :
      shown.getLast? ≠ some '\r' → EndsLine shown ('\n' :: later)
  | carriageReturn (later : Text) : EndsLine shown ('\r' :: '\n' :: later)

theorem withoutEnding_lineFeed
    {shown : Text} (plain : shown.getLast? ≠ some '\r') :
    withoutEnding (shown ++ ['\n']) = shown := by
  rcases List.eq_nil_or_concat shown with rfl | ⟨body, last, rfl⟩
  · rfl
  · have different : last ≠ '\r' := by simpa using plain
    simp [withoutEnding, different]

theorem withoutEnding_carriageReturn (shown : Text) :
    withoutEnding (shown ++ ['\r', '\n']) = shown := by
  simp [withoutEnding]

theorem withoutEnding_unbroken
    {shown : Text} (unbroken : '\n' ∉ shown) :
    withoutEnding shown = shown := by
  rcases List.eq_nil_or_concat shown with rfl | ⟨body, last, rfl⟩
  · rfl
  · have different : '\n' ≠ last := by
      rintro rfl
      simp at unbroken
    unfold withoutEnding
    split
    all_goals simp_all

theorem inside_of_unbroken {body : Text} (unbroken : '\n' ∉ body) :
    ∀ character ∈ body, Character.isLineFeed character = false := by
  intro character member
  rw [Bool.eq_false_iff]
  intro feed
  have same : character = '\n' := by simpa [Character.isLineFeed] using feed
  exact unbroken (same ▸ member)

theorem ofText_append
    {earlier : Text} (closed : Closed Character.isLineFeed earlier) (rest : Text) :
    ofText (earlier ++ rest) = ofText earlier ++ ofText rest := by
  rw [ofText, cut_append closed, List.map_append]
  rfl

theorem length_ofText
    {earlier : Text} (closed : Closed Character.isLineFeed earlier) :
    (ofText earlier).length = earlier.countP Character.isLineFeed := by
  rw [ofText, List.length_map, length_cut closed]

/-- The first line of a text is what stands in front of its ending. -/
theorem head?_ofText
    {shown rest : Text} (present : shown ≠ []) (unbroken : '\n' ∉ shown)
    (ending : EndsLine shown rest) :
    (ofText (shown ++ rest)).head? = some shown := by
  have inside := inside_of_unbroken unbroken
  unfold ofText
  cases ending with
  | atEnd =>
      rw [List.append_nil, cut_last present inside]
      exact congrArg some (withoutEnding_unbroken unbroken)
  | lineFeed later plain =>
      rw [cut_line inside rfl]
      exact congrArg some (withoutEnding_lineFeed plain)
  | carriageReturn later =>
      have insideReturn : ∀ character ∈ shown ++ ['\r'],
          Character.isLineFeed character = false := by
        apply inside_of_unbroken
        simpa using unbroken
      have regrouped : shown ++ '\r' :: '\n' :: later =
          (shown ++ ['\r']) ++ '\n' :: later := by
        simp
      rw [regrouped, cut_line insideReturn rfl, List.append_assoc]
      exact congrArg some (withoutEnding_carriageReturn shown)

/-! ## The line around a character -/

/-- What a text shows of the line on which `character` stands between `before`
and `after`: from the line feed before it to the one behind it. -/
structure IsLineAround (before : Text) (character : Char) (after shown : Text) :
    Prop where
  unbroken : '\n' ∉ shown
  inPlace : ∃ earlier front back rest,
    before = earlier ++ front ∧ after = back ++ rest ∧
      shown = front ++ character :: back ∧
      (∀ last ∈ earlier.getLast?, last = '\n') ∧ EndsLine shown rest

theorem IsLineAround.mem
    {before after shown : Text} {character : Char}
    (around : IsLineAround before character after shown) :
    character ∈ shown := by
  obtain ⟨_, front, back, _, _, _, rfl, _⟩ := around.inPlace
  exact List.mem_append_right front (List.mem_cons_self ..)

/-- The line around a character is found by counting line feeds. -/
theorem IsLineAround.getElem?_ofText
    {before after shown : Text} {character : Char}
    (around : IsLineAround before character after shown) :
    (ofText (before ++ character :: after))[before.countP Character.isLineFeed]? =
      some shown := by
  have present : shown ≠ [] := List.ne_nil_of_mem around.mem
  obtain ⟨unbroken, earlier, front, back, rest, rfl, rfl, rfl, begins, ending⟩ := around
  have closed : Closed Character.isLineFeed earlier := by
    intro last found
    rw [begins last found]
    rfl
  have noFeed : front.countP Character.isLineFeed = 0 := by
    rw [List.countP_eq_zero]
    intro member inFront feed
    have inside := inside_of_unbroken unbroken member
      (List.mem_append_left _ inFront)
    rw [inside] at feed
    cases feed
  have count : (earlier ++ front).countP Character.isLineFeed =
      (ofText earlier).length := by
    rw [List.countP_append, noFeed, length_ofText closed, Nat.add_zero]
  have regrouped : earlier ++ front ++ character :: (back ++ rest) =
      earlier ++ (front ++ character :: back ++ rest) := by
    simp
  rw [count, regrouped, ofText_append closed,
    List.getElem?_append_right (Nat.le_refl _), Nat.sub_self,
    ← List.head?_eq_getElem?]
  exact head?_ofText present unbroken ending

/-- The text behind a character begins with the rest of the line on which the
character stands. -/
theorem exists_ending (after : Text) :
    ∃ back rest, after = back ++ rest ∧ '\n' ∉ back ∧
      ∀ (front : Text) (character : Char), character ≠ '\r' →
        EndsLine (front ++ character :: back) rest := by
  by_cases feed : '\n' ∈ after
  · obtain ⟨body, later, rfl, unbroken⟩ := List.eq_append_cons_of_mem feed
    rcases List.eq_nil_or_concat body with rfl | ⟨front, last, rfl⟩
    · refine ⟨[], '\n' :: later, rfl, unbroken, ?_⟩
      intro front character notReturn
      exact .lineFeed later (by simpa using notReturn)
    · rw [List.concat_eq_append] at unbroken ⊢
      by_cases isReturn : last = '\r'
      · subst last
        refine ⟨front, '\r' :: '\n' :: later, ?_, ?_, ?_⟩
        · simp
        · simpa using unbroken
        · intro _ _ _
          exact .carriageReturn later
      · refine ⟨front ++ [last], '\n' :: later, rfl, unbroken, ?_⟩
        intro _ _ _
        apply EndsLine.lineFeed
        rw [← List.cons_append, ← List.append_assoc, List.getLast?_concat]
        simpa using isReturn
  · exact ⟨after, [], (List.append_nil after).symm, feed, fun _ _ _ => .atEnd⟩

/-- A character that is no part of a line ending stands on a line. -/
theorem exists_isLineAround
    (before : Text) {character : Char} (after : Text)
    (notFeed : character ≠ '\n') (notReturn : character ≠ '\r') :
    ∃ shown, IsLineAround before character after shown := by
  let inside := fun character => !Character.isLineFeed character
  have joined : before.rdropWhile inside ++ before.rtakeWhile inside = before :=
    List.rdropWhile_append_rtakeWhile
  have unbrokenFront : '\n' ∉ before.rtakeWhile inside := by
    intro member
    have found := List.mem_rtakeWhile_imp member
    cases found
  have begins : ∀ last ∈ (before.rdropWhile inside).getLast?, last = '\n' := by
    intro last found
    have present : before.rdropWhile inside ≠ [] := by
      intro none
      rw [none] at found
      cases found
    have stopped := List.rdropWhile_last_not inside before present
    rw [List.getLast?_eq_some_getLast present] at found
    rw [Option.some.inj found] at stopped
    simpa [inside, Character.isLineFeed] using stopped
  obtain ⟨back, rest, divided, unbrokenBack, ending⟩ := exists_ending after
  refine ⟨before.rtakeWhile inside ++ character :: back, ?_, ?_⟩
  · simp [unbrokenFront, unbrokenBack, notFeed.symm]
  · exact ⟨_, _, back, rest, joined.symm, divided, rfl, begins,
      ending _ character notReturn⟩

end Lines
end LoxLexer
