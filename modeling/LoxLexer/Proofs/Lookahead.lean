import LoxLexer.Proofs.Row
import Mathlib.Data.List.Basic

/-!
# What follows a segment

What a segment asks of the text behind it is told by the first character there,
and by a point with a digit behind it.  So the text behind a row of segments can
be exchanged for one that offers nothing more to continue a token with.
-/

namespace LoxLexer

namespace Character

/-- Whether a character can belong to a token that begins in front of it, other
than to a string. -/
def continuesToken (character : Char) : Bool :=
  isWordCharacter character || character == '=' || character == '/' ||
    character == '.'

theorem continuesToken_of_isWordCharacter {character : Char}
    (member : isWordCharacter character = true) :
    continuesToken character = true := by
  simp [continuesToken, member]

theorem continuesToken_of_isDigit {character : Char}
    (digit : isDigit character = true) :
    continuesToken character = true :=
  continuesToken_of_isWordCharacter (isWordCharacter_of_isDigit digit)

theorem continuesToken_eq_false_of_isBlank {character : Char}
    (blank : isBlank character = true) :
    continuesToken character = false := by
  rcases isBlank_iff.mp blank with rfl | rfl | rfl | rfl <;> rfl

end Character

theorem Symbol.continuesToken_of_extension?
    {mark : Symbol} {character : Char} (extends_ : mark.extension? = some character) :
    Character.continuesToken character = true := by
  cases mark <;> cases extends_ <;> rfl

/-- Whatever can continue a token at the front of `other` stands at the front of
`rest` as well. -/
structure OffersNoMore (other rest : Text) : Prop where
  head : ∀ character ∈ other.head?, Character.continuesToken character = true →
    rest.head? = some character
  fraction : beginsFraction other = true → beginsFraction rest = true

theorem beginsFraction_iff {text : Text} :
    beginsFraction text = true ↔
      ∃ digit tail, Character.isDigit digit = true ∧ text = '.' :: digit :: tail := by
  constructor
  · intro fraction
    unfold beginsFraction at fraction
    split at fraction
    · exact ⟨_, _, fraction, rfl⟩
    · cases fraction
  · rintro ⟨digit, tail, isDigit, rfl⟩
    exact isDigit

namespace OffersNoMore

section Stops

variable {more : Text}
  (stops : ∀ character ∈ more.head?, Character.continuesToken character = false)

include stops

theorem beginsFraction_of_append
    {rest : Text} (fraction : beginsFraction (rest ++ more) = true) (other : Text) :
    beginsFraction (rest ++ other) = true := by
  obtain ⟨digit, tail, isDigit, joined⟩ := beginsFraction_iff.mp fraction
  match rest with
  | [] =>
      have plain := stops '.' (by rw [← List.nil_append more, joined]; rfl)
      cases plain
  | [first] =>
      obtain ⟨_, rfl⟩ := List.cons.inj joined
      have plain := stops digit rfl
      rw [Character.continuesToken_of_isDigit isDigit] at plain
      cases plain
  | first :: second :: others =>
      obtain ⟨rfl, later⟩ := List.cons.inj joined
      obtain ⟨rfl, _⟩ := List.cons.inj later
      exact isDigit

/-- A text that begins with nothing to continue a token offers no more than any
other, behind whatever stands in front of both. -/
theorem append (rest other : Text) :
    OffersNoMore (rest ++ more) (rest ++ other) where
  head := by
    intro character found continues
    cases rest with
    | nil =>
        have plain := stops character found
        rw [continues] at plain
        cases plain
    | cons first tail =>
        exact found
  fraction := fun fraction => beginsFraction_of_append stops fraction other

end Stops

theorem beginsFraction_eq_false
    {other rest : Text} (noMore : OffersNoMore other rest)
    (plain : beginsFraction rest = false) :
    beginsFraction other = false := by
  rw [Bool.eq_false_iff]
  intro fraction
  rw [noMore.fraction fraction] at plain
  cases plain

end OffersNoMore

namespace Segment

/-- A segment that ends in front of a text ends in front of any other that offers
no more.  What stops a comment has to be seen to, and so has an open string. -/
theorem EndsBefore.exchange
    {segment : Segment} {rest other : Text}
    (ends : segment.EndsBefore rest) (noMore : OffersNoMore other rest)
    (comment : ∀ body, segment = .comment body →
      ∀ character ∈ other.head?, character = '\n')
    (openString : ∀ body, segment = .openString body → other = []) :
    segment.EndsBefore other := by
  cases segment with
  | comment body =>
      exact comment body rfl
  | openString body =>
      exact openString body rfl
  | symbol mark =>
      intro character extends_ following
      apply ends character extends_
      exact noMore.head character following
        (Symbol.continuesToken_of_extension? extends_)
  | word letters =>
      intro character found
      rw [Bool.eq_false_iff]
      intro member
      have before := noMore.head character found
        (Character.continuesToken_of_isWordCharacter member)
      rw [ends character before] at member
      cases member
  | number numeral =>
      refine ⟨fun character found => ?_, fun whole => ?_⟩
      · rw [Bool.eq_false_iff]
        intro digit
        have before := noMore.head character found
          (Character.continuesToken_of_isDigit digit)
        rw [ends.1 character before] at digit
        cases digit
      · exact noMore.beginsFraction_eq_false (ends.2 whole)
  | _ =>
      trivial

/-- One character is enough to tell that a segment ends, but that a number has to see
what stands behind a point. -/
theorem EndsBefore.append
    {segment : Segment} {rest : Text} (ends : segment.EndsBefore rest)
    (present : rest ≠ [])
    (seen : ∀ numeral, segment = .number numeral → rest ≠ ['.']) (more : Text) :
    segment.EndsBefore (rest ++ more) := by
  have head : (rest ++ more).head? = rest.head? := List.head?_append_of_ne_nil rest present
  cases segment with
  | comment body =>
      intro character found
      rw [head] at found
      exact ends character found
  | symbol mark =>
      intro character extends_
      rw [head]
      exact ends character extends_
  | word letters =>
      intro character found
      rw [head] at found
      exact ends character found
  | number numeral =>
      refine ⟨fun character found => ?_, fun whole => ?_⟩
      · rw [head] at found
        exact ends.1 character found
      · have plain := ends.2 whole
        match rest with
        | [] =>
            exact absurd rfl present
        | [first] =>
            have notPoint : first ≠ '.' := by
              rintro rfl
              exact seen numeral rfl rfl
            rw [Bool.eq_false_iff, Ne, beginsFraction_iff]
            rintro ⟨digit, tail, _, joined⟩
            exact notPoint (List.cons.inj joined).1
        | first :: second :: others =>
            rw [Bool.eq_false_iff, Ne, beginsFraction_iff]
            rintro ⟨digit, tail, isDigit, joined⟩
            obtain ⟨rfl, later⟩ := List.cons.inj joined
            obtain ⟨rfl, _⟩ := List.cons.inj later
            rw [beginsFraction, isDigit] at plain
            cases plain
  | openString body =>
      exact absurd ends present
  | _ =>
      trivial

end Segment

end LoxLexer
