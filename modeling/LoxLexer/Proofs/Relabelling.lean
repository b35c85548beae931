import LoxLexer.Proofs.Cursor
import LoxLexer.Proofs.Findings
import LoxLexer.Proofs.Lookahead
import LoxLexer.Proofs.Wording

/-!
# Characters without a meaning

The lexical grammar names some characters and treats all others alike, wherever
they stand.  So any of the others may be put in the place of another, NUL
included, and nothing changes in a scan but the characters themselves.
-/

namespace LoxLexer

/-- The characters that the lexical grammar names: blanks, the quote, letters,
digits, and what symbols are spelled with. -/
def Character.isSignificant (character : Char) : Bool :=
  isBlank character || isQuote character || isWordCharacter character ||
    Symbol.all.any fun mark => mark.spelling.contains character

/-- A change of characters that keeps the significant ones as they are and the
others among themselves.  Different characters may become the same. -/
structure Relabelling where
  image : Char → Char
  fixes : ∀ character, Character.isSignificant character = true →
    image character = character
  keeps : ∀ character, Character.isSignificant character = false →
    Character.isSignificant (image character) = false

/-! ## Significant characters -/

namespace Character

theorem isSignificant_iff {character : Char} :
    isSignificant character = true ↔
      isBlank character = true ∨ isQuote character = true ∨
        isWordCharacter character = true ∨
          ∃ mark : Symbol, character ∈ mark.spelling := by
  simp [isSignificant, or_assoc, Symbol.mem_all]

theorem isSignificant_of_isWordCharacter {character : Char}
    (member : isWordCharacter character = true) :
    isSignificant character = true :=
  isSignificant_iff.mpr (Or.inr (Or.inr (Or.inl member)))

theorem isSignificant_of_isDigit {character : Char}
    (digit : isDigit character = true) :
    isSignificant character = true :=
  isSignificant_of_isWordCharacter (isWordCharacter_of_isDigit digit)

theorem isSignificant_of_mem_spelling {mark : Symbol} {character : Char}
    (member : character ∈ mark.spelling) :
    isSignificant character = true :=
  isSignificant_iff.mpr (Or.inr (Or.inr (Or.inr ⟨mark, member⟩)))

theorem isSignificant_of_continuesToken {character : Char}
    (continues : continuesToken character = true) :
    isSignificant character = true := by
  simp only [continuesToken, Bool.or_eq_true, beq_iff_eq] at continues
  rcases continues with ((member | rfl) | rfl) | rfl
  · exact isSignificant_of_isWordCharacter member
  · rfl
  · rfl
  · rfl

end Character

/-- Every character that a symbol is spelled with is a symbol by itself. -/
theorem Symbol.exists_head_of_mem_spelling
    {mark : Symbol} {character : Char} (member : character ∈ mark.spelling) :
    ∃ other : Symbol, other.spelling.head? = some character := by
  have table : (all.all fun mark => mark.spelling.all fun character =>
      all.any fun other => other.spelling.head? == some character) = true := by
    decide
  simp only [List.all_eq_true, List.any_eq_true, beq_iff_eq] at table
  obtain ⟨other, _, head⟩ := table mark mark.mem_all character member
  exact ⟨other, head⟩

/-- The characters that begin nothing are the ones without a meaning. -/
theorem isStray_iff {character : Char} :
    IsStray character ↔ Character.isSignificant character = false := by
  rw [Bool.eq_false_iff, Ne, Character.isSignificant_iff]
  constructor
  · rintro stray (blank | quote | member | ⟨mark, member⟩)
    · rw [stray.blank] at blank
      cases blank
    · rw [stray.quote] at quote
      cases quote
    · simp [Character.isWordCharacter, stray.letter, stray.digit] at member
    · obtain ⟨other, head⟩ := Symbol.exists_head_of_mem_spelling member
      exact stray.symbol other head
  · intro insignificant
    simp only [not_or, Bool.not_eq_true] at insignificant
    obtain ⟨blank, quote, plain, spelled⟩ := insignificant
    rw [Character.isWordCharacter, Bool.or_eq_false_iff] at plain
    refine ⟨blank, quote, plain.2, plain.1, fun mark head => ?_⟩
    exact spelled ⟨mark, List.mem_of_head? head⟩

/-! ## Relabelled characters and texts -/

namespace Relabelling

variable (relabelling : Relabelling)

theorem image_eq_iff
    {character named : Char} (significant : Character.isSignificant named = true) :
    relabelling.image character = named ↔ character = named := by
  constructor
  · intro same
    cases known : Character.isSignificant character with
    | true =>
        rwa [relabelling.fixes character known] at same
    | false =>
        have unknown := relabelling.keeps character known
        rw [same, significant] at unknown
        cases unknown
  · rintro rfl
    exact relabelling.fixes character significant

/-- A class of significant characters is kept. -/
theorem member_image
    {member : Char → Bool}
    (named : ∀ character, member character = true →
      Character.isSignificant character = true)
    (character : Char) :
    member (relabelling.image character) = member character := by
  cases known : Character.isSignificant character with
  | true =>
      rw [relabelling.fixes character known]
  | false =>
      have outside {other : Char} (unknown : Character.isSignificant other = false) :
          member other = false := by
        rw [Bool.eq_false_iff]
        intro inside
        rw [named other inside] at unknown
        cases unknown
      rw [outside known, outside (relabelling.keeps character known)]

/-- A text with every character relabelled. -/
def text (source : Text) : Text :=
  source.map relabelling.image

theorem mem_text_iff
    {named : Char} (significant : Character.isSignificant named = true)
    {source : Text} :
    named ∈ relabelling.text source ↔ named ∈ source := by
  simp [text, relabelling.image_eq_iff significant]

theorem text_eq_self
    {source : Text}
    (significant : ∀ character ∈ source, Character.isSignificant character = true) :
    relabelling.text source = source := by
  rw [text, List.map_congr_left fun character member =>
    relabelling.fixes character (significant character member), List.map_id']

theorem countP_text
    {member : Char → Bool}
    (named : ∀ character, member character = true →
      Character.isSignificant character = true)
    (source : Text) :
    (relabelling.text source).countP member = source.countP member := by
  rw [text, List.countP_map]
  exact List.countP_congr fun character _ => by
    rw [Function.comp_apply, relabelling.member_image named]

theorem offersNoMore (rest : Text) :
    OffersNoMore (relabelling.text rest) rest where
  head := by
    intro character found continues
    have significant := Character.isSignificant_of_continuesToken continues
    rw [text, List.head?_map, Option.mem_def, Option.map_eq_some_iff] at found
    obtain ⟨origin, isFirst, same⟩ := found
    rwa [(relabelling.image_eq_iff significant).mp same] at isFirst
  fraction := by
    intro fraction
    obtain ⟨digit, tail, isDigit, written⟩ := beginsFraction_iff.mp fraction
    obtain ⟨point, others, rfl, isPoint, others_eq⟩ := List.map_eq_cons_iff.mp written
    obtain ⟨origin, behind, rfl, same, _⟩ := List.map_eq_cons_iff.mp others_eq
    obtain rfl := (relabelling.image_eq_iff rfl).mp isPoint
    have known := Character.isSignificant_of_isDigit isDigit
    obtain rfl := (relabelling.image_eq_iff known).mp same
    exact isDigit

/-! ## Relabelled segments -/

/-- A segment with every character relabelled.  Symbols, words and numbers hold
significant characters only, and so do blanks. -/
def segment : Segment → Segment
  | .comment body => .comment (relabelling.text body)
  | .string body => .string (relabelling.text body)
  | .openString body => .openString (relabelling.text body)
  | .stray character => .stray (relabelling.image character)
  | other => other

theorem text_spelling (mark : Symbol) :
    relabelling.text mark.spelling = mark.spelling :=
  relabelling.text_eq_self fun _ => Character.isSignificant_of_mem_spelling

theorem text_word {letters : Text} (isWord : IsWord letters) :
    relabelling.text letters = letters := by
  apply relabelling.text_eq_self
  intro character member
  exact Character.isSignificant_of_isWordCharacter
    (isWord.all_wordCharacters character member)

theorem text_numeral {numeral : Numeral} (formed : numeral.WellFormed) :
    relabelling.text numeral.text = numeral.text := by
  apply relabelling.text_eq_self
  intro character member
  rcases formed.isDigit_or_point member with digit | rfl
  · exact Character.isSignificant_of_isDigit digit
  · rfl

theorem text_segment {segment : Segment} (formed : segment.WellFormed) :
    (relabelling.segment segment).text = relabelling.text segment.text := by
  cases segment with
  | blank character =>
      have known := Character.isSignificant_iff.mpr (Or.inl formed)
      simp [Relabelling.segment, Segment.text, text, relabelling.fixes character known]
  | symbol mark =>
      exact (relabelling.text_spelling mark).symm
  | word letters =>
      exact (relabelling.text_word formed).symm
  | number numeral =>
      exact (relabelling.text_numeral formed).symm
  | stray character =>
      rfl
  | comment body =>
      simp [Relabelling.segment, Segment.text, text, relabelling.fixes '/' rfl]
  | string body =>
      simp [Relabelling.segment, Segment.text, text, relabelling.fixes '"' rfl]
  | openString body =>
      simp [Relabelling.segment, Segment.text, text, relabelling.fixes '"' rfl]

theorem wellFormed_segment {segment : Segment} (formed : segment.WellFormed) :
    (relabelling.segment segment).WellFormed := by
  cases segment with
  | comment body =>
      exact (relabelling.mem_text_iff rfl).not.mpr formed
  | string body =>
      exact (relabelling.mem_text_iff rfl).not.mpr formed
  | openString body =>
      exact (relabelling.mem_text_iff rfl).not.mpr formed
  | stray character =>
      exact isStray_iff.mpr (relabelling.keeps character (isStray_iff.mp formed))
  | _ =>
      exact formed

theorem endsBefore_segment
    {segment : Segment} {rest : Text} (ends : segment.EndsBefore rest) :
    (relabelling.segment segment).EndsBefore (relabelling.text rest) := by
  have same : segment.EndsBefore (relabelling.text rest) := by
    apply ends.exchange (relabelling.offersNoMore rest)
    · rintro body rfl character found
      rw [text, List.head?_map, Option.mem_def, Option.map_eq_some_iff] at found
      obtain ⟨origin, isFirst, rfl⟩ := found
      obtain rfl := ends origin isFirst
      exact relabelling.fixes '\n' rfl
    · rintro body rfl
      have ended : rest = [] := ends
      rw [ended]
      rfl
  cases segment <;> exact same

theorem flatMap_text_map_segment {row : List Segment} (fits : RowFits row) :
    (row.map relabelling.segment).flatMap Segment.text =
      relabelling.text (row.flatMap Segment.text) := by
  induction row with
  | nil =>
      rfl
  | cons segment rest induction =>
      rw [List.map_cons, List.flatMap_cons, relabelling.text_segment fits.1.1,
        induction fits.2, List.flatMap_cons, text, text, text, List.map_append]

theorem rowFits_map_segment {row : List Segment} (fits : RowFits row) :
    RowFits (row.map relabelling.segment) := by
  induction row with
  | nil =>
      trivial
  | cons segment rest induction =>
      refine ⟨⟨relabelling.wellFormed_segment fits.1.1, ?_⟩, induction fits.2⟩
      rw [relabelling.flatMap_text_map_segment fits.2]
      exact relabelling.endsBefore_segment fits.1.2

/-- A relabelled text is divided at the same places. -/
theorem segments_text (source : Text) :
    segments (relabelling.text source) = (segments source).map relabelling.segment := by
  have fits := rowFits_segments source
  rw [segments_eq_iff, relabelling.flatMap_text_map_segment fits, flatMap_text_segments]
  exact ⟨rfl, relabelling.rowFits_map_segment fits⟩

/-! ## Relabelled scans -/

def literal : Literal → Literal
  | .text body => .text (relabelling.text body)
  | other => other

def token (found : Token) : Token :=
  { found with
    lexeme := relabelling.text found.lexeme
    literal := relabelling.literal found.literal }

def fault : Fault → Fault
  | .unexpectedCharacter character =>
      .unexpectedCharacter (relabelling.image character)
  | other => other

def locatedFault (located : LocatedFault) : LocatedFault :=
  { located with fault := relabelling.fault located.fault }

theorem event?_segment
    {segment : Segment} (formed : segment.WellFormed) (line : Nat) :
    (relabelling.segment segment).event? line =
      (segment.event? line).map
        (Event.map relabelling.token relabelling.locatedFault) := by
  have written := relabelling.text_segment formed
  cases segment
  case symbol | word | number | string =>
    simp only [Segment.event?, Relabelling.segment] at written ⊢
    simp [Event.map, token, literal, ← written]
  all_goals rfl

theorem lineFeeds_segment {segment : Segment} (formed : segment.WellFormed) :
    (relabelling.segment segment).lineFeeds = segment.lineFeeds := by
  rw [Segment.lineFeeds, relabelling.text_segment formed, Segment.lineFeeds]
  apply relabelling.countP_text
  intro character feed
  obtain rfl := Character.isLineFeed_iff.mp feed
  rfl

theorem ofSegments_map_segment {row : List Segment} (fits : RowFits row) (line : Nat) :
    Scan.ofSegments line (row.map relabelling.segment) =
      (Scan.ofSegments line row).map relabelling.token relabelling.locatedFault := by
  induction row generalizing line with
  | nil =>
      rfl
  | cons segment rest induction =>
      exact Scan.ofSegments_cons_map _ _ (relabelling.event?_segment fits.1.1 line)
        (relabelling.lineFeeds_segment fits.1.1) (induction fits.2 _)

theorem scan_text (source : Text) :
    scan (relabelling.text source) =
      (scan source).map relabelling.token relabelling.locatedFault := by
  rw [scan_eq_ofSegments, relabelling.segments_text,
    relabelling.ofSegments_map_segment (rowFits_segments source), scan_eq_ofSegments]

end Relabelling

/-- A scan does not tell characters without a meaning apart.  Where they are
relabelled, so are the texts of tokens and the characters that faults name, and
kinds, lines and numbers stay as they are.  The sentences that tell of the faults name the
relabelled characters. -/
theorem scan_relabelled (relabelling : Relabelling) (source : Text) :
    (scan (relabelling.text source)).tokens =
        (scan source).tokens.map relabelling.token ∧
      (scan (relabelling.text source)).faults =
        (scan source).faults.map relabelling.locatedFault ∧
      (scan (relabelling.text source)).faults.map (fun located => located.fault.message) =
        (scan source).faults.map fun located =>
          (relabelling.fault located.fault).wording := by
  rw [relabelling.scan_text]
  refine ⟨Scan.tokens_map _ _ (fun _ => rfl) _, Scan.faults_map _ _ _, ?_⟩
  rw [Scan.faults_map, List.map_map]
  simp only [Fault.message_eq_wording]
  rfl

/-- NUL in the place of every character without a meaning. -/
def Relabelling.toNul : Relabelling where
  image character := if Character.isSignificant character then character else '\x00'
  fixes _ significant := if_pos significant
  keeps character insignificant := by
    rw [insignificant]
    rfl

/-- Characters that become the same are still one fault each. -/
example :
    (scan (Relabelling.toNul.text "é \"λ\nя\" @ // ж".toList)).faults =
      [⟨1, .unexpectedCharacter '\x00'⟩, ⟨2, .unexpectedCharacter '\x00'⟩] := by
  decide +kernel

end LoxLexer
