import LoxLexer.Proofs.Findings
import LoxLexer.Proofs.Lines
import LoxLexer.Proofs.LongestMatch
import LoxLexer.Proofs.Lookahead
import LoxLexer.Session

/-!
# Carriage returns at line ends

A carriage return in front of a line feed is a blank, the end of a comment or a
character of a string, and no part of a line that is shown.  So a text with one
in front of every line feed is scanned and shown as it is without them.
-/

namespace LoxLexer

/-- A text with a carriage return put in front of every line feed. -/
def crlf (source : Text) : Text :=
  source.flatMap fun character =>
    if character = '\n' then ['\r', '\n'] else [character]

theorem crlf_append (front back : Text) :
    crlf (front ++ back) = crlf front ++ crlf back :=
  List.flatMap_append

theorem crlf_lineFeed (rest : Text) :
    crlf ('\n' :: rest) = '\r' :: '\n' :: crlf rest :=
  rfl

theorem crlf_cons
    {character : Char} (different : character ≠ '\n') (rest : Text) :
    crlf (character :: rest) = character :: crlf rest := by
  rw [crlf, List.flatMap_cons, if_neg different]
  rfl

theorem crlf_eq_self {source : Text} (unbroken : '\n' ∉ source) :
    crlf source = source := by
  induction source with
  | nil =>
      rfl
  | cons character rest induction =>
      rw [List.mem_cons, not_or] at unbroken
      rw [crlf_cons (Ne.symm unbroken.1), induction unbroken.2]

theorem mem_crlf_iff
    {character : Char} (different : character ≠ '\r') {source : Text} :
    character ∈ crlf source ↔ character ∈ source := by
  induction source with
  | nil =>
      rfl
  | cons first rest induction =>
      by_cases feed : first = '\n'
      · subst first
        simp [crlf_lineFeed, different, induction]
      · simp [crlf_cons feed, induction]

theorem countP_crlf (source : Text) :
    (crlf source).countP Character.isLineFeed = source.countP Character.isLineFeed := by
  induction source with
  | nil =>
      rfl
  | cons first rest induction =>
      by_cases feed : first = '\n'
      · subst first
        rw [crlf_lineFeed, List.countP_cons, List.countP_cons, List.countP_cons, induction]
        rfl
      · rw [crlf_cons feed, List.countP_cons, List.countP_cons, induction]

theorem head?_crlf
    {source : Text} {character : Char} (found : (crlf source).head? = some character)
    (different : character ≠ '\r') :
    ∃ rest, source = character :: rest ∧ crlf source = character :: crlf rest := by
  cases source with
  | nil =>
      cases found
  | cons first rest =>
      by_cases feed : first = '\n'
      · subst first
        exact absurd (Option.some.inj found).symm different
      · rw [crlf_cons feed] at found ⊢
        obtain rfl := Option.some.inj found
        exact ⟨rest, rfl, rfl⟩

theorem offersNoMore_crlf (rest : Text) :
    OffersNoMore (crlf rest) rest where
  head := by
    intro character found continues
    have different : character ≠ '\r' := by
      rintro rfl
      cases continues
    obtain ⟨others, rfl, _⟩ := head?_crlf found different
    rfl
  fraction := by
    intro fraction
    obtain ⟨digit, tail, isDigit, written⟩ := beginsFraction_iff.mp fraction
    obtain ⟨behind, rfl, same⟩ := head?_crlf (by rw [written]; rfl) (by decide)
    rw [written] at same
    have different : digit ≠ '\r' := by
      rintro rfl
      cases isDigit
    obtain ⟨others, rfl, _⟩ :=
      head?_crlf (by rw [← (List.cons.inj same).2]; rfl) different
    exact isDigit

/-! ## Rows of segments -/

/-- What becomes of a segment that is no line feed.  Only strings have line
feeds in them. -/
def Segment.crlf : Segment → Segment
  | .string body => .string (LoxLexer.crlf body)
  | .openString body => .openString (LoxLexer.crlf body)
  | other => other

/-- What becomes of a row.  The carriage return in front of a line feed is a
blank, or else it belongs to the comment there. -/
def crlfRow : List Segment → List Segment
  | .comment body :: .blank '\n' :: rest =>
      .comment (body ++ ['\r']) :: .blank '\n' :: crlfRow rest
  | .blank '\n' :: rest => .blank '\r' :: .blank '\n' :: crlfRow rest
  | segment :: rest => segment.crlf :: crlfRow rest
  | [] => []

namespace Segment

theorem unbroken_of_lineFeeds {segment : Segment} (none : segment.lineFeeds = 0) :
    '\n' ∉ segment.text :=
  Character.countP_isLineFeed_eq_zero_iff.mp none

theorem text_crlf
    {segment : Segment} (formed : segment.WellFormed) (noFeed : segment ≠ .blank '\n') :
    segment.crlf.text = LoxLexer.crlf segment.text := by
  cases segment with
  | blank character =>
      have different : character ≠ '\n' := fun same => noFeed (same ▸ rfl)
      exact (crlf_cons different []).symm
  | comment body =>
      exact (crlf_eq_self (unbroken_of_lineFeeds (lineFeeds_comment formed))).symm
  | symbol mark =>
      exact (crlf_eq_self (unbroken_of_lineFeeds (lineFeeds_symbol mark))).symm
  | word letters =>
      exact (crlf_eq_self (unbroken_of_lineFeeds (lineFeeds_word formed))).symm
  | number numeral =>
      exact (crlf_eq_self (unbroken_of_lineFeeds (lineFeeds_number formed))).symm
  | stray character =>
      exact (crlf_eq_self (unbroken_of_lineFeeds (lineFeeds_stray formed))).symm
  | string body =>
      rw [text, crlf_append, crlf_cons (by decide)]
      rfl
  | openString body =>
      rw [text, crlf_cons (by decide)]
      rfl

theorem WellFormed.crlf {segment : Segment} (formed : segment.WellFormed) :
    segment.crlf.WellFormed := by
  cases segment with
  | string body =>
      exact (mem_crlf_iff (by decide)).not.mpr formed
  | openString body =>
      exact (mem_crlf_iff (by decide)).not.mpr formed
  | _ =>
      exact formed

theorem EndsBefore.crlf
    {segment : Segment} {rest : Text} (ends : segment.EndsBefore rest)
    (comment : ∀ body, segment = .comment body → rest = []) :
    segment.crlf.EndsBefore (LoxLexer.crlf rest) := by
  have same : segment.EndsBefore (LoxLexer.crlf rest) := by
    apply ends.exchange (offersNoMore_crlf rest)
    · rintro body isComment character found
      rw [comment body isComment] at found
      cases found
    · rintro body rfl
      have ended : rest = [] := ends
      rw [ended]
      rfl
  cases segment <;> exact same

/-- A segment that begins with a blank is that blank. -/
theorem WellFormed.eq_blank
    {segment : Segment} {character : Char} (formed : segment.WellFormed)
    (blank : Character.isBlank character = true)
    (begins : segment.text.head? = some character) :
    segment = .blank character := by
  have opening := formed.ofText?_eq
  rw [Opening.ofText?, begins, Option.map_some,
    Opening.ofCharacter_of_isBlank blank, Option.some.injEq] at opening
  cases segment with
  | blank other =>
      rw [Option.some.inj begins]
  | _ =>
      cases opening

/-- What follows a comment is a line feed. -/
theorem EndsBefore.row_eq
    {body : Text} {row : List Segment}
    (ends : (comment body).EndsBefore (row.flatMap text)) (fits : RowFits row) :
    row = [] ∨ ∃ rest, row = .blank '\n' :: rest := by
  cases row with
  | nil =>
      exact Or.inl rfl
  | cons segment rest =>
      have formed := fits.1.1
      obtain ⟨first, others, letters⟩ := List.exists_cons_of_ne_nil formed.text_ne_nil
      have stops : first = '\n' := by
        apply ends first
        rw [List.flatMap_cons, letters]
        rfl
      have begins : segment.text.head? = some '\n' := by
        rw [letters, stops]
        rfl
      exact Or.inr ⟨rest, by rw [formed.eq_blank rfl begins]⟩

end Segment

section Row

theorem crlfRow_cons
    {segment : Segment} {rest : List Segment}
    (notEnded : ∀ body behind, segment = .comment body → rest ≠ .blank '\n' :: behind)
    (noFeed : segment ≠ .blank '\n') :
    crlfRow (segment :: rest) = segment.crlf :: crlfRow rest := by
  rw [crlfRow]
  · exact notEnded
  · exact noFeed

variable {row : List Segment} (fits : RowFits row)

include fits

theorem flatMap_text_crlfRow :
    (crlfRow row).flatMap Segment.text = crlf (row.flatMap Segment.text) := by
  induction row using crlfRow.induct with
  -- The carriage return in front of a line feed goes into a comment that ends there.
  | case1 body rest induction =>
      have unbroken :=
        Segment.unbroken_of_lineFeeds (Segment.lineFeeds_comment fits.1.1)
      rw [crlfRow, List.flatMap_cons, List.flatMap_cons, induction fits.2.2,
        List.flatMap_cons, crlf_append, crlf_eq_self unbroken]
      simp [Segment.text, crlf_lineFeed]
  | case2 rest induction =>
      rw [crlfRow, List.flatMap_cons, List.flatMap_cons, induction fits.2]
      rfl
  | case3 segment rest notEnded noFeed induction =>
      rw [crlfRow_cons notEnded noFeed, List.flatMap_cons,
        Segment.text_crlf fits.1.1 noFeed, induction fits.2, List.flatMap_cons,
        crlf_append]
  | case4 =>
      rfl

theorem rowFits_crlfRow :
    RowFits (crlfRow row) := by
  induction row using crlfRow.induct with
  | case1 body rest induction =>
      have unbroken : '\n' ∉ body := fits.1.1
      have extended : '\n' ∉ body ++ ['\r'] := by simpa using unbroken
      have stops : ∀ text : Text, ∀ character ∈ ('\n' :: text).head?,
          character = '\n' := by
        rintro text character ⟨⟩
        rfl
      rw [crlfRow]
      exact ⟨⟨extended, stops _⟩, ⟨rfl, trivial⟩, induction fits.2.2⟩
  | case2 rest induction =>
      rw [crlfRow]
      exact ⟨⟨rfl, trivial⟩, ⟨rfl, trivial⟩, induction fits.2⟩
  | case3 segment rest notEnded noFeed induction =>
      rw [crlfRow_cons notEnded noFeed]
      refine ⟨⟨fits.1.1.crlf, ?_⟩, induction fits.2⟩
      rw [flatMap_text_crlfRow fits.2]
      apply fits.1.2.crlf
      rintro body rfl
      rcases fits.1.2.row_eq fits.2 with rfl | ⟨behind, rfl⟩
      · rfl
      · exact absurd rfl (notEnded body behind rfl)
  | case4 =>
      trivial

end Row

/-! ## Scans -/

/-- A text as a literal with carriage returns at its line ends. -/
def Literal.crlf : Literal → Literal
  | .text body => .text (LoxLexer.crlf body)
  | other => other

/-- A token with carriage returns at the line ends of its characters. -/
def Token.crlf (token : Token) : Token :=
  { token with
    lexeme := LoxLexer.crlf token.lexeme
    literal := token.literal.crlf }

theorem Segment.event?_crlf
    {segment : Segment} (formed : segment.WellFormed) (noFeed : segment ≠ .blank '\n')
    (line : Nat) :
    segment.crlf.event? line = (segment.event? line).map (Event.map Token.crlf id) := by
  have written := text_crlf formed noFeed
  cases segment
  case symbol | word | number | string =>
    simp only [event?, crlf] at written ⊢
    simp [Event.map, Token.crlf, Literal.crlf, ← written]
  all_goals rfl

theorem Segment.lineFeeds_crlf
    {segment : Segment} (formed : segment.WellFormed) (noFeed : segment ≠ .blank '\n') :
    segment.crlf.lineFeeds = segment.lineFeeds := by
  rw [lineFeeds, text_crlf formed noFeed, countP_crlf, lineFeeds]

theorem ofSegments_crlfRow {row : List Segment} (fits : RowFits row) (line : Nat) :
    Scan.ofSegments line (crlfRow row) =
      (Scan.ofSegments line row).map Token.crlf id := by
  induction row using crlfRow.induct generalizing line with
  | case1 body rest induction =>
      have unbroken : (Segment.comment (body ++ ['\r'])).lineFeeds = 0 := by
        apply Segment.lineFeeds_comment
        have inside : '\n' ∉ body := fits.1.1
        simpa [Segment.WellFormed] using inside
      rw [crlfRow]
      apply Scan.ofSegments_cons_map _ _ rfl
      · rw [unbroken, Segment.lineFeeds_comment fits.1.1]
      · exact Scan.ofSegments_cons_map _ _ rfl rfl (induction fits.2.2 _)
  | case2 rest induction =>
      have divided : Scan.ofSegments line (.blank '\n' :: crlfRow rest) =
          (Scan.ofSegments line (.blank '\n' :: rest)).map Token.crlf id :=
        Scan.ofSegments_cons_map _ _ rfl rfl (induction fits.2 _)
      rw [crlfRow]
      exact divided
  | case3 segment rest notEnded noFeed induction =>
      rw [crlfRow_cons notEnded noFeed]
      exact Scan.ofSegments_cons_map _ _ (Segment.event?_crlf fits.1.1 noFeed line)
        (Segment.lineFeeds_crlf fits.1.1 noFeed) (induction fits.2 _)
  | case4 =>
      rfl

theorem segments_crlf (source : Text) :
    segments (crlf source) = crlfRow (segments source) := by
  have fits := rowFits_segments source
  rw [segments_eq_iff, flatMap_text_crlfRow fits, flatMap_text_segments]
  exact ⟨rfl, rowFits_crlfRow fits⟩

theorem scan_crlf (source : Text) :
    scan (crlf source) = (scan source).map Token.crlf id := by
  rw [scan_eq_ofSegments, segments_crlf, ofSegments_crlfRow (rowFits_segments source),
    scan_eq_ofSegments]

theorem faults_scan_crlf (source : Text) :
    (scan (crlf source)).faults = (scan source).faults := by
  rw [scan_crlf, Scan.faults_map, List.map_id]

/-! ## Lines -/

namespace Lines

theorem cut_crlf (source : Text) :
    cut Character.isLineFeed (crlf source) =
      (cut Character.isLineFeed source).map crlf := by
  induction source with
  | nil =>
      rfl
  | cons first rest induction =>
      by_cases feed : first = '\n'
      · subst first
        rw [crlf_lineFeed, cut_cons, cut_cons, cut_cons, induction]
        rfl
      · have inside : Character.isLineFeed first = false := by
          rw [Bool.eq_false_iff, Ne, Character.isLineFeed_iff]
          exact feed
        rw [crlf_cons feed, cut_cons, cut_cons, induction]
        cases cut Character.isLineFeed rest with
        | nil => simp [prepend, inside, crlf, feed]
        | cons line others => simp [prepend, inside, crlf_cons feed]

theorem withoutEnding_crlf
    {line : Text} (noReturn : '\r' ∉ line) (unbroken : '\n' ∉ line.dropLast) :
    withoutEnding (crlf line) = withoutEnding line := by
  rcases List.eq_nil_or_concat line with rfl | ⟨body, last, rfl⟩
  · rfl
  · rw [List.concat_eq_append] at noReturn unbroken ⊢
    rw [List.dropLast_concat] at unbroken
    by_cases feed : last = '\n'
    · subst last
      have plain : body.getLast? ≠ some '\r' := by
        intro found
        exact noReturn (List.mem_append_left _ (List.mem_of_getLast? found))
      rw [crlf_append, crlf_eq_self unbroken, withoutEnding_lineFeed plain]
      exact withoutEnding_carriageReturn body
    · rw [crlf_eq_self]
      simp [unbroken, Ne.symm feed]

/-- Without carriage returns of its own, a text is cut into the same lines. -/
theorem ofText_crlf {source : Text} (noReturn : '\r' ∉ source) :
    ofText (crlf source) = ofText source := by
  rw [ofText, cut_crlf, List.map_map, ofText]
  apply List.map_congr_left
  intro line member
  apply withoutEnding_crlf
  · intro inLine
    apply noReturn
    rw [← flatten_cut Character.isLineFeed source]
    exact List.mem_flatten_of_mem member inLine
  · intro inLine
    have inside := ends_eq_false_of_mem_dropLast member inLine
    cases inside

end Lines

/-- Where carriage returns are put in front of all line feeds, only the texts of
tokens show it.  Faults are the same, and so are diagnostics of a text that had
no carriage returns. -/
theorem scan_neutral_to_line_endings (source : Text) :
    (scan (crlf source)).tokens = (scan source).tokens.map Token.crlf ∧
      (scan (crlf source)).faults = (scan source).faults ∧
      ('\r' ∉ source → ∀ (session : Session) (coloured : Bool),
        ((session.run (crlf source)).session.perform
            (.diagnose (some (crlf source)) coloured)).2 =
          ((session.run source).session.perform
            (.diagnose (some source) coloured)).2) := by
  refine ⟨?_, faults_scan_crlf source, fun noReturn session coloured => ?_⟩
  · rw [scan_crlf]
    exact Scan.tokens_map _ _ (fun _ => rfl) _
  · have session_eq : (session.run (crlf source)).session = (session.run source).session := by
      simp only [Session.run, faults_scan_crlf]
    have context : Failure.context (crlf source) = Failure.context source := by
      funext line
      simp only [Failure.context, Lines.ofText_crlf noReturn]
    rw [session_eq]
    simp only [Session.perform, Failure.diagnostic, context]

/-- A broken string, a comment and a number in front of line feeds, and a fault
that is shown with its line. -/
theorem scan_neutral_to_line_endings_broken_string :
    '\r' ∉ "\"a\nb\" // c\n1.\n@ d".toList ∧
      (scan (crlf "\"a\nb\" // c\n1.\n@ d".toList)).faults =
        (scan "\"a\nb\" // c\n1.\n@ d".toList).faults ∧
      ∀ (session : Session) (coloured : Bool),
        ((session.run (crlf "\"a\nb\" // c\n1.\n@ d".toList)).session.perform
            (.diagnose (some (crlf "\"a\nb\" // c\n1.\n@ d".toList)) coloured)).2 =
          ((session.run "\"a\nb\" // c\n1.\n@ d".toList).session.perform
            (.diagnose (some "\"a\nb\" // c\n1.\n@ d".toList) coloured)).2 := by
  have noReturn : '\r' ∉ "\"a\nb\" // c\n1.\n@ d".toList := by decide
  have neutral := scan_neutral_to_line_endings "\"a\nb\" // c\n1.\n@ d".toList
  exact ⟨noReturn, neutral.2.1, neutral.2.2 noReturn⟩

end LoxLexer
