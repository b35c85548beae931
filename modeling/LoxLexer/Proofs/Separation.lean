import LoxLexer.Proofs.Coverage
import LoxLexer.Proofs.Opening

/-!
# Lexemes written one after the other

Lexemes with blanks between them are scanned back as they were written, unless
somewhere the blanks are missing and two lexemes, or a number, a point and
another number, run together.
-/

namespace LoxLexer

/-- Blanks, possibly none. -/
abbrev Separator :=
  { text : Text // ∀ character ∈ text, Character.isBlank character = true }

/-- A lexeme and the blanks behind it. -/
structure Item where
  lexeme : Text
  separator : Separator
  isLexeme : IsLexeme lexeme

/-- Items one after the other, behind the blanks in front. -/
def written (lead : Separator) (items : List Item) : Text :=
  lead.val ++ items.flatMap fun item => item.lexeme ++ item.separator.val

/-! ## What must be kept apart -/

/-- Two lexemes that are not scanned back when nothing stands between them. -/
def Clash (left right : Text) : Prop :=
  (left ∈ [['!'], ['='], ['<'], ['>']] ∧ right.head? = some '=') ∨
    (left = ['/'] ∧ right = ['/']) ∨
    (IsWord left ∧ (IsWord right ∨ IsNumber right)) ∨
    (IsNumber left ∧ IsNumber right)

/-- An item in front of others, with nothing between it and a lexeme that it
clashes with, or between it, a point and a number that make one number. -/
def Touches (left : Item) (others : List Item) : Prop :=
  left.separator.val = [] ∧
    ∃ right after, others = right :: after ∧
      (Clash left.lexeme right.lexeme ∨
        (IsDigits left.lexeme ∧ right.lexeme = ['.'] ∧ right.separator.val = [] ∧
          ∃ next more, after = next :: more ∧ IsNumber next.lexeme))

/-- Somewhere in a row of items something is to be kept apart and is not. -/
def Collides (items : List Item) : Prop :=
  ∃ before item after, items = before ++ item :: after ∧ Touches item after

theorem collides_cons_iff {item : Item} {rest : List Item} :
    Collides (item :: rest) ↔ Touches item rest ∨ Collides rest := by
  constructor
  · rintro ⟨before, left, after, divided, touches⟩
    cases before with
    | nil =>
        obtain ⟨rfl, rfl⟩ := List.cons.inj divided
        exact Or.inl touches
    | cons first others =>
        obtain ⟨_, divided⟩ := List.cons.inj divided
        exact Or.inr ⟨others, left, after, divided, touches⟩
  · rintro (touches | ⟨before, left, after, divided, touches⟩)
    · exact ⟨[], item, rest, rfl, touches⟩
    · exact ⟨item :: before, left, after, by rw [divided]; rfl, touches⟩

theorem not_collides_nil :
    ¬ Collides [] := by
  rintro ⟨before, item, after, divided, _⟩
  simp at divided

theorem written_cons
    (lead : Separator) (item : Item) (rest : List Item) :
    written lead (item :: rest) =
      lead.val ++ (item.lexeme ++ written item.separator rest) := by
  simp [written]

/-! ## A clash by the opening of the first lexeme -/

theorem Clash.of_opening
    {left right : Text} {opening : Opening} (clash : Clash left right)
    (opens : Opening.ofText? left = some opening) :
    match opening with
    | .mark =>
        (left ∈ [['!'], ['='], ['<'], ['>']] ∧ right.head? = some '=') ∨
          (left = ['/'] ∧ right = ['/'])
    | .letter => IsWord right ∨ IsNumber right
    | .digit => IsNumber right
    | _ => False := by
  rcases clash with ⟨operator, equals⟩ | ⟨rfl, rfl⟩ | ⟨isWord, follows⟩ | ⟨isNumber, follows⟩
  · have marked : Opening.ofText? left = some .mark := by
      simp only [List.mem_cons, List.not_mem_nil, or_false] at operator
      rcases operator with rfl | rfl | rfl | rfl <;> rfl
    cases marked.symm.trans opens
    exact Or.inl ⟨operator, equals⟩
  · cases opens
    exact Or.inr ⟨rfl, rfl⟩
  · cases isWord.opening.symm.trans opens
    exact follows
  · cases isNumber.opening.symm.trans opens
    exact follows

/-! ## What ends in front of a lexeme -/

section Right

variable {right behind : Text}

/-- A lexeme that begins like a symbol is that symbol if no other begins so. -/
theorem IsLexeme.eq_spelling
    (lexeme : IsLexeme right) (mark : Symbol)
    (sole : ∀ other : Symbol,
      other.spelling.head? = mark.spelling.head? → other = mark)
    (head : right.head? = mark.spelling.head?) :
    right = mark.spelling := by
  have opens : Opening.ofText? right = some .mark := by
    rw [Opening.ofText?, head]
    exact mark.opening
  obtain ⟨other, rfl⟩ := lexeme.begins opens
  rw [sole other head]

theorem IsLexeme.head?_append
    (lexeme : IsLexeme right) (behind : Text) :
    (right ++ behind).head? = right.head? :=
  List.head?_append_of_ne_nil right lexeme.ne_nil

/-- A fraction begins in front of a lexeme only if the lexeme is the point. -/
theorem IsLexeme.beginsFraction_iff
    (lexeme : IsLexeme right) :
    beginsFraction (right ++ behind) = true ↔
      right = ['.'] ∧ Opening.ofText? behind = some .digit := by
  constructor
  · intro fraction
    have head := lexeme.head?_append behind
    generalize joined : right ++ behind = source at fraction head
    unfold beginsFraction at fraction
    split at fraction
    · rename_i digit rest
      obtain rfl := lexeme.eq_spelling .dot (fun _ => Symbol.eq_dot_of_head) head.symm
      obtain ⟨_, rfl⟩ := List.cons.inj joined
      exact ⟨rfl, congrArg some (Opening.ofCharacter_of_isDigit fraction)⟩
    · cases fraction
  · rintro ⟨rfl, opens⟩
    cases behind with
    | nil =>
        cases opens
    | cons digit rest =>
        exact Opening.ofCharacter_eq_digit_iff.mp (Option.some.inj opens)

theorem Segment.ends_symbol_iff
    {mark : Symbol} (lexeme : IsLexeme right) :
    (symbol mark).EndsBefore (right ++ behind) ↔ ¬ Clash mark.spelling right := by
  have head := lexeme.head?_append behind
  constructor
  · intro ends clash
    rcases clash.of_opening mark.opening with ⟨operator, equals⟩ | ⟨slash, rfl⟩
    · have extends_ : mark.extension? = some '=' := by
        cases mark
        case bang | equal | greater | less => rfl
        all_goals exact absurd operator (by decide)
      exact ends '=' extends_ (head.trans equals)
    · obtain rfl : mark = .slash := Symbol.spelling_injective slash
      exact ends '/' rfl head
  · intro apart character extends_ following
    apply apart
    have found := head.symm.trans following
    cases mark <;> cases extends_
    case slash.refl =>
      have same :=
        lexeme.eq_spelling .slash (fun _ => Symbol.eq_slash_of_head) found
      exact Or.inr (Or.inl ⟨rfl, same⟩)
    all_goals exact Or.inl ⟨by decide, found⟩

theorem IsLexeme.continues_iff
    (lexeme : IsLexeme right) :
    (∀ character ∈ (right ++ behind).head?,
        Character.isWordCharacter character = false) ↔
      ¬ (IsWord right ∨ IsNumber right) := by
  rw [lexeme.head?_append, lexeme.isWord_iff, lexeme.isNumber_iff, Opening.ofText?]
  cases right.head? with
  | none =>
      simp
  | some character =>
      simp [Opening.ofCharacter_eq_letter_iff, Opening.ofCharacter_eq_digit_iff,
        Character.isWordCharacter]

theorem IsLexeme.continuesDigits_iff
    (lexeme : IsLexeme right) :
    (∀ character ∈ (right ++ behind).head?,
        Character.isDigit character = false) ↔ ¬ IsNumber right := by
  rw [lexeme.head?_append, lexeme.isNumber_iff, Opening.ofText?]
  cases right.head? with
  | none =>
      simp
  | some character =>
      simp [Opening.ofCharacter_eq_digit_iff]

theorem Segment.ends_word_iff
    {letters : Text} (isWord : IsWord letters) (lexeme : IsLexeme right) :
    (word letters).EndsBefore (right ++ behind) ↔ ¬ Clash letters right := by
  change (∀ character ∈ _, _) ↔ _
  rw [lexeme.continues_iff]
  apply not_congr
  exact ⟨fun follows => Or.inr (Or.inr (Or.inl ⟨isWord, follows⟩)),
    fun clash => clash.of_opening isWord.opening⟩

theorem Numeral.WellFormed.isDigits_text_iff
    {numeral : Numeral} (formed : numeral.WellFormed) :
    IsDigits numeral.text ↔ numeral.fraction = [] := by
  obtain ⟨whole, fraction⟩ := numeral
  cases fraction with
  | nil =>
      exact iff_of_true formed.1 rfl
  | cons first rest =>
      apply iff_of_false _ (List.cons_ne_nil first rest)
      intro digits
      exact absurd (digits.2 '.' (by simp [text])) (by decide)

/-- What makes two lexemes, or the first with the number behind a point, run
together. -/
def RunsOn (left right behind : Text) : Prop :=
  Clash left right ∨
    (IsDigits left ∧ right = ['.'] ∧ Opening.ofText? behind = some .digit)

theorem Segment.ends_number_iff
    {numeral : Numeral} (formed : numeral.WellFormed) (lexeme : IsLexeme right) :
    (number numeral).EndsBefore (right ++ behind) ↔
      ¬ RunsOn numeral.text right behind := by
  have isNumber := formed.isNumber
  have clash : Clash numeral.text right ↔ IsNumber right :=
    ⟨fun clash => clash.of_opening isNumber.opening,
      fun follows => Or.inr (Or.inr (Or.inr ⟨isNumber, follows⟩))⟩
  change (∀ character ∈ _, _) ∧ (_ → _) ↔ _
  rw [lexeme.continuesDigits_iff, RunsOn, clash, formed.isDigits_text_iff,
    ← Bool.not_eq_true, lexeme.beginsFraction_iff]
  simp only [not_or, not_and]

theorem runsOn_iff_of_opening
    {left : Text} {opening : Opening} (opens : Opening.ofText? left = some opening)
    (notDigit : opening ≠ .digit) :
    RunsOn left right behind ↔ Clash left right := by
  constructor
  · rintro (clash | ⟨digits, _⟩)
    · exact clash
    · cases opens.symm.trans (IsNumber.opening (Or.inl digits))
      exact absurd rfl notDigit
  · exact Or.inl

/-- A token ends in front of the next lexeme exactly if they do not run together. -/
theorem Segment.ends_iff_not_runsOn
    {segment : Segment} (token : segment.segmentClass = .token)
    (formed : segment.WellFormed) (lexeme : IsLexeme right) :
    segment.EndsBefore (right ++ behind) ↔ ¬ RunsOn segment.text right behind := by
  cases segment with
  | symbol mark =>
      rw [ends_symbol_iff lexeme]
      exact (not_congr (runsOn_iff_of_opening mark.opening Opening.noConfusion)).symm
  | word letters =>
      have isWord : IsWord letters := formed
      rw [ends_word_iff isWord lexeme]
      exact (not_congr (runsOn_iff_of_opening isWord.opening Opening.noConfusion)).symm
  | number numeral =>
      exact ends_number_iff formed lexeme
  | string body =>
      have opens : Opening.ofText? (string body).text = some .quote := rfl
      rw [runsOn_iff_of_opening opens Opening.noConfusion]
      exact iff_of_true trivial fun clash => clash.of_opening opens
  | _ =>
      cases token

end Right

/-! ## What ends in front of further items -/

/-- A token ends in front of blanks and at the end. -/
theorem Segment.ends_of_blank
    {segment : Segment} {rest : Text}
    (token : segment.segmentClass = .token)
    (blank : ∀ character ∈ rest.head?, Character.isBlank character = true) :
    segment.EndsBefore rest := by
  have plain : ∀ character ∈ rest.head?,
      Character.isWordCharacter character = false := by
    intro character found
    rw [Bool.eq_false_iff]
    intro member
    have notBlank := Character.isBlank_eq_false_of_isWordCharacter member
    rw [blank character found] at notBlank
    cases notBlank
  cases segment with
  | symbol mark =>
      intro character extends_ following
      have isBlank := blank character following
      cases mark <;> cases extends_ <;> exact absurd isBlank (by decide)
  | word letters =>
      exact plain
  | number numeral =>
      refine ⟨fun character found => ?_, fun _ => ?_⟩
      · have other := plain character found
        simp only [Character.isWordCharacter, Bool.or_eq_false_iff] at other
        exact other.2
      · unfold beginsFraction
        split
        · exact absurd (blank '.' rfl) (by decide)
        · rfl
  | string body =>
      trivial
  | _ =>
      cases token

theorem opening_written_iff {lead : Separator} {items : List Item} :
    Opening.ofText? (written lead items) = some .digit ↔
      lead.val = [] ∧
        ∃ next more, items = next :: more ∧ IsNumber next.lexeme := by
  obtain ⟨text, blanks⟩ := lead
  cases text with
  | cons character others =>
      have isBlank := blanks character (List.mem_cons_self ..)
      apply iff_of_false
      · intro opens
        have digit : Opening.ofCharacter character = .digit := Option.some.inj opens
        rw [Opening.ofCharacter_of_isBlank isBlank] at digit
        cases digit
      · rintro ⟨empty, _⟩
        cases empty
  | nil =>
      cases items with
      | nil =>
          apply iff_of_false
          · intro opens
            cases opens
          · rintro ⟨_, next, more, filled, _⟩
            cases filled
      | cons item rest =>
          rw [written_cons, List.nil_append, Opening.ofText?,
            item.isLexeme.head?_append, ← Opening.ofText?, ← item.isLexeme.isNumber_iff]
          simp

/-- Where nothing stands between two items, touching is running on. -/
theorem touches_cons_iff {item right : Item} {after : List Item} :
    Touches item (right :: after) ↔
      item.separator.val = [] ∧
        RunsOn item.lexeme right.lexeme (written right.separator after) := by
  rw [Touches, RunsOn, opening_written_iff]
  constructor
  · rintro ⟨empty, _, _, filled, touches⟩
    cases filled
    exact ⟨empty, touches⟩
  · rintro ⟨empty, touches⟩
    exact ⟨empty, right, after, rfl, touches⟩

theorem Segment.ends_iff_not_touches
    {segment : Segment} {item : Item} {rest : List Item}
    (token : segment.segmentClass = .token) (formed : segment.WellFormed)
    (spelled : segment.text = item.lexeme) :
    segment.EndsBefore (written item.separator rest) ↔ ¬ Touches item rest := by
  cases separator : item.separator.val with
  | cons character others =>
      have isBlank := item.separator.property character (by simp [separator])
      apply iff_of_true
      · apply ends_of_blank token
        intro first found
        rw [written, separator] at found
        cases found
        exact isBlank
      · rintro ⟨empty, _⟩
        rw [separator] at empty
        cases empty
  | nil =>
      cases rest with
      | nil =>
          apply iff_of_true
          · apply ends_of_blank token
            simp [written, separator]
          · rintro ⟨_, right, after, filled, _⟩
            cases filled
      | cons right after =>
          rw [written_cons, separator, List.nil_append,
            ends_iff_not_runsOn token formed right.isLexeme, touches_cons_iff, spelled]
          simp [separator]

/-! ## Rows of items -/

/-- The segment that a lexeme is read as. -/
theorem IsLexeme.exists_segment
    {text : Text} (lexeme : IsLexeme text) :
    ∃ segment : Segment,
      segment.segmentClass = .token ∧ segment.WellFormed ∧ segment.text = text := by
  cases lexeme with
  | symbol mark =>
      exact ⟨.symbol mark, rfl, trivial, rfl⟩
  | word isWord =>
      exact ⟨.word text, rfl, isWord, rfl⟩
  | number isNumber =>
      rcases isNumber with digits | ⟨whole, fraction, digits, others, rfl⟩
      · exact ⟨.number ⟨text, []⟩, rfl, ⟨digits, by simp⟩, rfl⟩
      · cases fraction with
        | nil =>
            exact absurd rfl others.1
        | cons first rest =>
            exact ⟨.number ⟨whole, first :: rest⟩, rfl, ⟨digits, others.2⟩, rfl⟩
  | string isString =>
      obtain ⟨body, unquoted, rfl⟩ := isString
      exact ⟨.string body, rfl, unquoted, rfl⟩

/-- Segments that are blanks and tokens only. -/
def IsPlain (row : List Segment) : Prop :=
  ∀ segment ∈ row, segment.segmentClass = .blank ∨ segment.segmentClass = .token

/-- A row of blanks and tokens that is written as items and has their lexemes. -/
structure Renders (row : List Segment) (lead : Separator) (items : List Item) : Prop where
  text : row.flatMap Segment.text = written lead items
  lexemes : row.filterMap Segment.lexeme? = items.map Item.lexeme
  plain : IsPlain row

def Separator.empty : Separator :=
  ⟨[], by simp⟩

def Separator.blanks (separator : Separator) : List Segment :=
  separator.val.map Segment.blank

theorem Separator.flatMap_text_blanks (separator : Separator) :
    separator.blanks.flatMap Segment.text = separator.val := by
  simp [blanks, List.flatMap_map, Segment.text]

theorem Separator.rowFits_blanks_append
    (separator : Separator) {row : List Segment} (fits : RowFits row) :
    RowFits (separator.blanks ++ row) := by
  obtain ⟨text, blank⟩ := separator
  induction text with
  | nil =>
      exact fits
  | cons character others induction =>
      have later := induction fun later member =>
        blank later (List.mem_cons_of_mem character member)
      exact ⟨⟨blank character (List.mem_cons_self ..), trivial⟩, later⟩

theorem Renders.blanks_append
    {row : List Segment} {items : List Item} (renders : Renders row .empty items)
    (lead : Separator) :
    Renders (lead.blanks ++ row) lead items where
  text := by
    rw [List.flatMap_append, lead.flatMap_text_blanks, renders.text]
    rfl
  lexemes := by
    have none : lead.blanks.filterMap Segment.lexeme? = [] := by
      simp [Separator.blanks, Segment.lexeme?, Segment.segmentClass]
    rw [List.filterMap_append, none, List.nil_append, renders.lexemes]
  plain := by
    intro segment member
    rcases List.mem_append.mp member with inLead | inRow
    · obtain ⟨character, _, rfl⟩ := List.mem_map.mp inLead
      exact Or.inl rfl
    · exact renders.plain segment inRow

theorem Renders.token_cons
    {segment : Segment} {row : List Segment} {item : Item} {rest : List Item}
    (token : segment.segmentClass = .token) (spelled : segment.text = item.lexeme)
    (renders : Renders row item.separator rest) :
    Renders (segment :: row) .empty (item :: rest) where
  text := by
    rw [List.flatMap_cons, renders.text, written_cons, spelled]
    rfl
  lexemes := by
    have lexeme : segment.lexeme? = some item.lexeme := by
      rw [Segment.lexeme?, if_pos token, spelled]
    rw [List.filterMap_cons, lexeme, renders.lexemes, List.map_cons]
  plain := by
    intro other member
    rcases List.mem_cons.mp member with rfl | later
    · exact Or.inr token
    · exact renders.plain other later

/-- Items that are kept apart are read back one by one. -/
theorem exists_renders
    {items : List Item} (apart : ¬ Collides items) (lead : Separator) :
    ∃ row, RowFits row ∧ Renders row lead items := by
  induction items generalizing lead with
  | nil =>
      have fitting : RowFits [] := trivial
      have renders : Renders [] .empty [] := ⟨rfl, rfl, by simp [IsPlain]⟩
      exact ⟨_, lead.rowFits_blanks_append fitting, renders.blanks_append lead⟩
  | cons item rest induction =>
      rw [collides_cons_iff, not_or] at apart
      obtain ⟨row, fits, renders⟩ := induction apart.2 item.separator
      obtain ⟨segment, token, formed, spelled⟩ := item.isLexeme.exists_segment
      have ends : segment.EndsBefore (row.flatMap Segment.text) := by
        rw [renders.text, Segment.ends_iff_not_touches token formed spelled]
        exact apart.1
      have fitting : RowFits (segment :: row) := ⟨⟨formed, ends⟩, fits⟩
      exact ⟨_, lead.rowFits_blanks_append fitting,
        (renders.token_cons token spelled).blanks_append lead⟩

theorem Segment.WellFormed.isBlank
    {segment : Segment} (formed : segment.WellFormed)
    (class_eq : segment.segmentClass = .blank) :
    ∀ character ∈ segment.text, Character.isBlank character = true := by
  cases segment with
  | blank character =>
      intro other member
      rw [List.mem_singleton.mp member]
      exact formed
  | _ =>
      cases class_eq

theorem IsLexeme.not_blank
    {text : Text} (lexeme : IsLexeme text) (behind : Text) :
    ∀ character ∈ (text ++ behind).head?, Character.isBlank character = false := by
  intro character found
  obtain ⟨opening, opens, begins⟩ := lexeme.opening
  rw [lexeme.head?_append] at found
  rw [Opening.ofText?, Option.mem_def.mp found, Option.map_some, Option.some.injEq] at opens
  rw [Bool.eq_false_iff]
  intro blank
  rw [Opening.ofCharacter_of_isBlank blank] at opens
  subst opening
  exact begins

/-- The first token of a row is the first item, and the rest is the rest. -/
theorem Renders.uncons
    {row : List Segment} {lead : Separator} {item : Item} {rest : List Item}
    (fits : RowFits row) (renders : Renders row lead (item :: rest)) :
    ∃ segment later,
      RowFits (segment :: later) ∧ segment.segmentClass = .token ∧
        segment.text = item.lexeme ∧ Renders later item.separator rest := by
  obtain ⟨before, segment, later, rfl, none, found, lexemes⟩ :=
    List.filterMap_eq_cons_iff.mp renders.lexemes
  have token : segment.segmentClass = .token ∧ segment.text = item.lexeme := by
    simpa [Segment.lexeme?] using found
  have blank : ∀ character ∈ before.flatMap Segment.text,
      Character.isBlank character = true := by
    intro character member
    obtain ⟨other, inBefore, inText⟩ := List.mem_flatMap.mp member
    have inRow := List.mem_append_left (segment :: later) inBefore
    have notToken : other.segmentClass ≠ .token := by
      simpa [Segment.lexeme?] using none other inBefore
    have class_eq := (renders.plain other inRow).resolve_right notToken
    exact (fits.wellFormed inRow).isBlank class_eq character inText
  have joined := renders.text
  rw [List.flatMap_append, List.flatMap_cons, written_cons, token.2] at joined
  have apart := run_unique blank (item.isLexeme.not_blank _) joined
    lead.property (item.isLexeme.not_blank _)
  refine ⟨segment, later, fits.tail, token.1, token.2,
    List.append_cancel_left apart.2, lexemes, ?_⟩
  intro other member
  exact renders.plain other
    (List.mem_append_right before (List.mem_cons_of_mem segment member))

theorem Renders.not_collides
    {row : List Segment} {lead : Separator} {items : List Item}
    (fits : RowFits row) (renders : Renders row lead items) :
    ¬ Collides items := by
  induction items generalizing row lead with
  | nil =>
      exact not_collides_nil
  | cons item rest induction =>
      obtain ⟨segment, later, fitting, token, spelled, rendersRest⟩ :=
        renders.uncons fits
      have ends := fitting.1.2
      rw [rendersRest.text,
        Segment.ends_iff_not_touches token fitting.1.1 spelled] at ends
      rw [collides_cons_iff, not_or]
      exact ⟨ends, induction fitting.2 rendersRest⟩

/-! ## No room for comments

A comment would bring slashes that are in no lexeme, and blanks bring none.
-/

theorem count_slash_of_blank
    {text : Text}
    (blank : ∀ character ∈ text, Character.isBlank character = true) :
    text.count '/' = 0 := by
  rw [List.count_eq_zero]
  intro member
  exact absurd (blank '/' member) (by decide)

theorem count_slash_written (lead : Separator) (items : List Item) :
    (written lead items).count '/' =
      ((items.map Item.lexeme).flatten).count '/' := by
  induction items generalizing lead with
  | nil =>
      simpa [written] using count_slash_of_blank lead.property
  | cons item rest induction =>
      rw [written_cons, List.count_append, List.count_append, induction,
        count_slash_of_blank lead.property]
      simp

theorem countP_comment_le (row : List Segment) :
    row.countP (fun segment => segment.segmentClass = .comment) +
        ((row.filterMap Segment.lexeme?).flatten).count '/' ≤
      (row.flatMap Segment.text).count '/' := by
  induction row with
  | nil =>
      exact Nat.le_refl 0
  | cons segment rest induction =>
      rw [List.flatMap_cons, List.count_append]
      cases segment <;>
        simp [Segment.segmentClass, Segment.lexeme?, Segment.text] at induction ⊢ <;>
        omega

theorem isPlain_of_written
    {row : List Segment} {lead : Separator} {items : List Item}
    (sound : ∀ segment ∈ row,
      segment.segmentClass ≠ .rejected ∧ segment.segmentClass ≠ .openString)
    (text : row.flatMap Segment.text = written lead items)
    (lexemes : row.filterMap Segment.lexeme? = items.map Item.lexeme) :
    IsPlain row := by
  have slashes := countP_comment_le row
  rw [text, lexemes, count_slash_written] at slashes
  have noComment : row.countP (fun segment => segment.segmentClass = .comment) = 0 := by
    omega
  rw [List.countP_eq_zero] at noComment
  intro segment member
  have notComment := noComment segment member
  have notFaulty := sound segment member
  cases segment <;> simp_all [Segment.segmentClass]

/-! ## Scanning back -/

theorem faults_ofSegments_eq_nil_iff {line : Nat} {row : List Segment} :
    (Scan.ofSegments line row).faults = [] ↔
      ∀ segment ∈ row,
        segment.segmentClass ≠ .rejected ∧ segment.segmentClass ≠ .openString := by
  rw [← List.map_eq_nil_iff, Scan.faults, faults_of_segments, stretches,
    List.filterMap_map, List.filterMap_eq_nil_iff]
  refine forall₂_congr fun segment _ => ?_
  cases segment <;> simp [Segment.segmentClass, SegmentClass.fault?, Segment.text]

theorem lexemes_ofSegments (line : Nat) (row : List Segment) :
    ((Scan.ofSegments line row).tokens.filter fun token =>
        token.kind ≠ .endOfInput).map Token.lexeme =
      row.filterMap Segment.lexeme? := by
  have found : ∀ token ∈ (Scan.ofSegments line row).events.filterMap Event.token?,
      decide (token.kind ≠ .endOfInput) = true := by
    intro token member
    exact decide_eq_true (kind_ne_endOfInput_of_mem member)
  rw [Scan.tokens, List.filter_append, List.filter_eq_self.mpr found,
    List.map_append, lexemes_of_segments]
  exact List.append_nil _

/-- Lexemes written with blanks between them are scanned back without a fault
exactly if none of them collide. -/
theorem scan_undoes_writing_iff (lead : Separator) (items : List Item) :
    (scan (written lead items)).faults = [] ∧
        ((scan (written lead items)).tokens.filter fun token =>
          token.kind ≠ .endOfInput).map Token.lexeme = items.map Item.lexeme ↔
      ¬ Collides items := by
  have fits := rowFits_segments (written lead items)
  have text := flatMap_text_segments (written lead items)
  rw [scan_eq_ofSegments, faults_ofSegments_eq_nil_iff, lexemes_ofSegments]
  constructor
  · rintro ⟨sound, lexemes⟩
    have renders : Renders (segments (written lead items)) lead items :=
      ⟨text, lexemes, isPlain_of_written sound text lexemes⟩
    exact renders.not_collides fits
  · intro apart
    obtain ⟨row, fitting, renders⟩ := exists_renders apart lead
    rw [segments_eq_iff.mpr ⟨renders.text, fitting⟩]
    refine ⟨fun segment member => ?_, renders.lexemes⟩
    rcases renders.plain segment member with blank | token
    · simp [blank]
    · simp [token]

end LoxLexer
