import LoxLexer.Proofs.Stages

/-!
# Accesses stay in the source

At every stage of a scan the cursor stands between the start of its segment and the end
of the source, and both line counters are right.  From such a stage a turn succeeds, so
no access is ever out of range, it leads to such a stage again, and it makes progress.
The stages of the loop over the segments are the states that the scanner goes through.
-/

namespace LoxLexer

/-! ## Sound scanners -/

namespace Scanner

/-- A scanner of a source text whose counters agree with the text. -/
structure Sound (source : Text) (scanner : Scanner) : Prop where
  source_eq : scanner.source = source.toArray
  start_le : scanner.start ≤ scanner.current
  current_le : scanner.current ≤ source.length
  startLine_eq : scanner.startLine = lineBehind (source.take scanner.start)
  line_eq : scanner.line = lineBehind (source.take scanner.current)

namespace Sound

variable {source : Text} {scanner : Scanner}

theorem size_eq (sound : scanner.Sound source) :
    scanner.source.size = source.length := by
  rw [sound.source_eq, List.size_toArray]

theorem inRange (sound : scanner.Sound source) :
    scanner.InRange :=
  ⟨sound.start_le, sound.current_le.trans_eq sound.size_eq.symm⟩

theorem current_lt (sound : scanner.Sound source) (inside : scanner.atEnd = false) :
    scanner.current < source.length :=
  (atEnd_eq_false_iff.mp inside).trans_eq sound.size_eq

theorem startLine_le_line (sound : scanner.Sound source) :
    scanner.startLine ≤ scanner.line := by
  rw [sound.startLine_eq, sound.line_eq]
  have front := List.take_prefix_take_left (l := source) sound.start_le
  exact Nat.add_le_add_left front.sublist.countP_le 1

theorem take_succ (sound : scanner.Sound source) (inside : scanner.atEnd = false) :
    source.take (scanner.current + 1) = source.take scanner.current ++ [scanner.peek] := by
  have bound := sound.current_lt inside
  have seen : scanner.peek = source[scanner.current] := by
    simp [peek, peekAt, sound.source_eq, bound]
  rw [seen, List.take_succ_eq_append_getElem bound]

/-- Take the next character and count the line that it ends. -/
theorem advance_counting (sound : scanner.Sound source) (inside : scanner.atEnd = false) :
    ({ scanner with
      current := scanner.current + 1
      line := scanner.line + [scanner.peek].countP Character.isLineFeed } : Scanner).Sound
        source := by
  refine ⟨sound.source_eq, Nat.le_succ_of_le sound.start_le, sound.current_lt inside,
    sound.startLine_eq, ?_⟩
  rw [sound.take_succ inside, lineBehind, List.countP_append, ← Nat.add_assoc, ← lineBehind,
    sound.line_eq]

theorem advance
    (sound : scanner.Sound source) (inside : scanner.atEnd = false)
    (flat : Character.isLineFeed scanner.peek = false) :
    (scanner.advance inside).2.Sound source := by
  have counted := sound.advance_counting inside
  rw [List.countP_singleton, flat] at counted
  exact counted

theorem matchCharacter
    (sound : scanner.Sound source) {expected : Char}
    (flat : Character.isLineFeed expected = false) :
    (scanner.matchCharacter expected).2.Sound source := by
  rcases scanner.matchCharacter_cases expected with kept | ⟨inside, seen, taken⟩
  · rw [kept]
    exact sound
  · rw [taken]
    exact sound.advance inside (by rw [seen, flat])

theorem addToken (sound : scanner.Sound source) (kind : Kind) (literal : Literal) :
    (scanner.addToken kind literal).Sound source :=
  ⟨sound.source_eq, sound.start_le, sound.current_le, sound.startLine_eq, sound.line_eq⟩

theorem report (sound : scanner.Sound source) (line : Nat) (fault : Fault) :
    (scanner.report line fault).Sound source :=
  ⟨sound.source_eq, sound.start_le, sound.current_le, sound.startLine_eq, sound.line_eq⟩

theorem beginSegment (sound : scanner.Sound source) :
    scanner.beginSegment.Sound source :=
  ⟨sound.source_eq, Nat.le_refl _, sound.current_le, sound.line_eq, sound.line_eq⟩

end Sound

theorem sound_ofText (source : Text) :
    (ofText source).Sound source :=
  ⟨rfl, Nat.le_refl _, Nat.zero_le _, rfl, rfl⟩

end Scanner

/-! ## Sound stages -/

namespace Stage

/-- A stage with a sound scanner, which stands behind the first character of its segment
where it stands inside one. -/
structure Sound (source : Text) (stage : Stage) : Prop where
  scanner : stage.scanner.Sound source
  begun : stage.loop ≠ .segments → stage.scanner.start < stage.scanner.current

/-- The progress of a turn: a character is taken, or a loop inside a segment is left. -/
def Advances (stage next : Stage) : Prop :=
  stage.scanner.current < next.scanner.current ∨
    stage.loop ≠ .segments ∧ next.loop = .segments ∧
      stage.scanner.current ≤ next.scanner.current

theorem Sound.at_segments
    {source : Text} {scanner : Scanner} (sound : scanner.Sound source) :
    Sound source ⟨.segments, scanner⟩ :=
  ⟨sound, fun inner => absurd rfl inner⟩

end Stage

/-! ## Bodies of loops -/

/-- In a string a line is counted before the line feed is taken. -/
theorem Scanner.advance_countLine {scanner : Scanner} (inside : scanner.countLine.atEnd = false) :
    (scanner.countLine.advance inside).2 =
      { scanner with
        current := scanner.current + 1
        line := scanner.line + [scanner.peek].countP Character.isLineFeed } := by
  change ({ scanner.countLine with current := scanner.countLine.current + 1 } : Scanner) = _
  unfold countLine
  by_cases feed : scanner.peek = '\n'
  · rw [if_pos feed, feed]
    rfl
  · have flat : Character.isLineFeed scanner.peek = false := by
      rw [Bool.eq_false_iff, Ne, Character.isLineFeed_iff]
      exact feed
    rw [if_neg feed, List.countP_singleton, flat]
    rfl

/-- Only in a string does a loop take a line feed, and there it is counted. -/
theorem Loop.sound_body
    {source : Text} {loop : Loop} {scanner : Scanner} (sound : scanner.Sound source)
    (inner : loop ≠ segments) (more : loop.continues scanner = true)
    (inside : (loop.counted scanner).atEnd = false) :
    ((loop.counted scanner).advance inside).2.Sound source := by
  cases loop with
  | segments => exact absurd rfl inner
  | comment =>
      have different : (scanner.peek != '\n') = true := (Bool.and_eq_true_iff.mp more).1
      exact sound.advance inside (by simpa [Character.isLineFeed] using different)
  | string =>
      have taken := sound.advance_counting (scanner.atEnd_countLine.symm.trans inside)
      rw [← Scanner.advance_countLine inside] at taken
      exact taken
  | whole =>
      have member := Character.isWordCharacter_of_isDigit more
      exact sound.advance inside (Character.isLineFeed_eq_false_of_isWordCharacter member)
  | fraction =>
      have member := Character.isWordCharacter_of_isDigit more
      exact sound.advance inside (Character.isLineFeed_eq_false_of_isWordCharacter member)
  | word =>
      exact sound.advance inside (Character.isLineFeed_eq_false_of_isWordCharacter more)

/-! ## Ends of segments -/

namespace Scanner

section Ends

variable {source : Text} {scanner : Scanner}

theorem Sound.closeNumber (sound : scanner.Sound source) :
    scanner.closeNumber.Sound source := by
  unfold Scanner.closeNumber
  cases Numeral.ofText? scanner.lexeme with
  | some numeral => exact sound.addToken _ _
  | none => exact sound.report _ _

theorem Sound.closeString
    (sound : scanner.Sound source) (quoted : scanner.atEnd = false → scanner.peek = '"') :
    scanner.closeString.Sound source := by
  unfold Scanner.closeString
  by_cases inside : scanner.atEnd = false
  · rw [dif_pos inside]
    have closed := sound.advance inside (by rw [quoted inside]; decide)
    exact closed.addToken _ _
  · rw [dif_neg inside]
    exact sound.report _ _

theorem current_closeNumber (scanner : Scanner) :
    scanner.closeNumber.current = scanner.current := by
  unfold closeNumber
  cases Numeral.ofText? scanner.lexeme with
  | some numeral => rfl
  | none => rfl

theorem current_le_closeString (scanner : Scanner) :
    scanner.current ≤ scanner.closeString.current := by
  unfold closeString
  by_cases inside : scanner.atEnd = false
  · rw [dif_pos inside]
    exact Nat.le_succ _
  · rw [dif_neg inside]
    exact Nat.le_refl _

end Ends

end Scanner

theorem Loop.sound_close
    {source : Text} {loop : Loop} {scanner : Scanner} (sound : scanner.Sound source)
    (stops : loop.continues scanner = false) :
    (loop.close scanner).Sound source := by
  cases loop with
  | segments => exact sound
  | comment => exact sound
  | string =>
      apply sound.closeString
      intro inside
      simpa [continues, inside] using stops
  | whole => exact sound.closeNumber
  | fraction => exact sound.closeNumber
  | word => exact sound.addToken _ _

theorem Loop.current_le_close (loop : Loop) (scanner : Scanner) :
    scanner.current ≤ (loop.close scanner).current := by
  cases loop with
  | segments => exact Nat.le_refl _
  | comment => exact Nat.le_refl _
  | string => exact scanner.current_le_closeString
  | whole => exact scanner.current_closeNumber.ge
  | fraction => exact scanner.current_closeNumber.ge
  | word => exact Nat.le_refl _

/-! ## Beginnings of segments -/

namespace Scanner

/-- A turn that was tried at a sound stage: it succeeds, goes on at a sound stage that is
not further back, and leads to what the scanner comes to. -/
def Proceeds (source : Text) (scanner : Scanner) (tried : Option Stage) (result : Scanner) :
    Prop :=
  ∃ next, tried = some next ∧ next.Sound source ∧
    scanner.current ≤ next.scanner.current ∧ next.outcome = result

section Beginnings

variable {source : Text} {scanner : Scanner}

theorem Sound.symbol? (sound : scanner.Sound source) (mark : Symbol) :
    scanner.Proceeds source (scanner.symbol? mark) (scanner.addSymbol mark) :=
  ⟨_, symbol?_eq sound.inRange mark, .at_segments (sound.addToken _ _), Nat.le_refl _, rfl⟩

theorem Sound.operator? (sound : scanner.Sound source) (alone extended : Symbol) :
    scanner.Proceeds source (scanner.operator? alone extended)
      (scanner.scanOperator alone extended) := by
  have equals : Character.isLineFeed '=' = false := by decide
  have passed := sound.matchCharacter equals
  refine ⟨_, operator?_eq sound.inRange alone extended, .at_segments ?_,
    (Follows.scanOperator scanner alone extended).current, rfl⟩
  unfold scanOperator
  generalize scanner.matchCharacter '=' = matched at passed ⊢
  rcases matched with ⟨_ | _, after⟩
  · exact passed.addToken _ _
  · exact passed.addToken _ _

/-- Behind two slashes the comment is still to be read. -/
theorem Sound.slash?
    (sound : scanner.Sound source) (begun : scanner.start < scanner.current) :
    scanner.Proceeds source scanner.slash? scanner.scanSlash := by
  have solidus : Character.isLineFeed '/' = false := by decide
  have passed := sound.matchCharacter solidus
  have further := (Follows.matchCharacter scanner '/').current
  have kept : (scanner.matchCharacter '/').2.start = scanner.start := by
    rcases scanner.matchCharacter_cases '/' with same | ⟨_, _, same⟩
    · rw [same]
    · rw [same]
      rfl
  rw [Scanner.slash?, accept?_eq]
  unfold scanSlash
  generalize scanner.matchCharacter '/' = matched at passed further kept ⊢
  rcases matched with ⟨_ | _, after⟩
  · exact ⟨_, symbol?_eq passed.inRange .slash, .at_segments (passed.addToken _ _), further, rfl⟩
  · refine ⟨⟨.comment, after⟩, rfl, ⟨passed, fun _ => ?_⟩, further, rfl⟩
    dsimp only at kept further ⊢
    omega

/-- Every first character begins something. -/
theorem proceeds_goOn?
    (scanner : Scanner) {first : Char}
    (sound : ({ scanner with
      line := scanner.line + [first].countP Character.isLineFeed } : Scanner).Sound source)
    (begun : scanner.start < scanner.current) :
    scanner.Proceeds source (scanner.goOn? first) (scanner.scanFrom first) := by
  unfold scanFrom
  split
  case h_19 =>
    -- The one character that is counted here.
    exact ⟨_, rfl, .at_segments sound, Nat.le_refl _, rfl⟩
  case h_21 =>
    unfold Scanner.goOn?
    split
    case h_21 =>
      have flat : Character.isLineFeed first = false := by
        rw [Bool.eq_false_iff, Ne, Character.isLineFeed_iff]
        assumption
      rw [List.countP_singleton, flat] at sound
      have plain : scanner.Sound source := sound
      by_cases digit : Character.isDigit first = true
      · rw [if_pos digit, if_pos digit]
        exact ⟨_, rfl, ⟨plain, fun _ => begun⟩, Nat.le_refl _, rfl⟩
      · rw [if_neg digit, if_neg digit]
        by_cases letter : Character.isLetter first = true
        · rw [if_pos letter, if_pos letter]
          exact ⟨_, rfl, ⟨plain, fun _ => begun⟩, Nat.le_refl _, rfl⟩
        · rw [if_neg letter, if_neg letter]
          exact ⟨_, rfl, .at_segments (plain.report _ _), Nat.le_refl _, rfl⟩
    all_goals contradiction
  all_goals have plain : scanner.Sound source := sound
  case h_11 => exact plain.operator? _ _
  case h_12 => exact plain.operator? _ _
  case h_13 => exact plain.operator? _ _
  case h_14 => exact plain.operator? _ _
  case h_15 => exact plain.slash? begun
  case h_16 => exact ⟨_, rfl, .at_segments plain, Nat.le_refl _, rfl⟩
  case h_17 => exact ⟨_, rfl, .at_segments plain, Nat.le_refl _, rfl⟩
  case h_18 => exact ⟨_, rfl, .at_segments plain, Nat.le_refl _, rfl⟩
  case h_20 => exact ⟨_, rfl, ⟨plain, fun _ => begun⟩, Nat.le_refl _, rfl⟩
  all_goals exact plain.symbol? _

end Beginnings

end Scanner

/-! ## One turn -/

namespace Stage

variable {source : Text} {stage : Stage} {scanner : Scanner}

/-- A turn from one sound stage to another one, which makes progress. -/
structure SafeTurn (source : Text) (stage next : Stage) : Prop where
  made : stage.turn? = some next
  sound : next.Sound source
  advances : stage.Advances next

theorem turn?_of_continues (more : stage.loop.continues stage.scanner = true) :
    stage.turn? = stage.loop.body? stage.scanner :=
  if_pos more

theorem turn?_of_stops (stops : stage.loop.continues stage.scanner = false) :
    stage.turn? = stage.loop.exit? stage.scanner :=
  if_neg (by rw [stops]; exact Bool.false_ne_true)

/-- A turn of the loop over the segments begins the next one. -/
theorem exists_turn_segments
    (sound : scanner.Sound source) (inside : scanner.atEnd = false) :
    ∃ next, SafeTurn source ⟨.segments, scanner⟩ next ∧
      next.outcome = scanner.scanSegment inside := by
  have begun : scanner.beginSegment.atEnd = false := scanner.atEnd_beginSegment.trans inside
  have taken := sound.beginSegment.advance_counting begun
  rw [← Scanner.fst_advance begun] at taken
  obtain ⟨next, made, soundNext, further, outcome⟩ :=
    Scanner.proceeds_goOn? (scanner.beginSegment.advance begun).2 taken (Nat.lt_succ_self _)
  have more : Loop.segments.continues scanner = true := by
    rw [Loop.continues, inside]
    rfl
  refine ⟨next, ⟨?_, soundNext, .inl further⟩, outcome⟩
  rw [turn?_of_continues more, Loop.body?, Scanner.take?_of_inside begun]
  exact made

/-- A turn of a loop inside a segment goes on with the loop or finishes the segment. -/
theorem Sound.exists_turn_inner
    (sound : stage.Sound source) (inner : stage.loop ≠ .segments) :
    ∃ next, SafeTurn source stage next ∧ next.outcome = stage.outcome := by
  obtain ⟨loop, scanner⟩ := stage
  have begun : scanner.start < scanner.current := sound.begun inner
  -- The loop goes on, or a number goes on with its fraction, or the segment is finished.
  by_cases more : loop.continues scanner = true
  · have inside := (loop.atEnd_counted scanner).trans (Loop.inside_of_continues more)
    have current : ((loop.counted scanner).advance inside).2.current = scanner.current + 1 :=
      congrArg Nat.succ (loop.current_counted scanner)
    have start : ((loop.counted scanner).advance inside).2.start = scanner.start :=
      loop.start_counted scanner
    refine ⟨_, ⟨(turn?_of_continues more).trans (Loop.body?_eq inner inside),
      ⟨Loop.sound_body sound.scanner inner more inside, fun _ => ?_⟩, .inl ?_⟩,
      Loop.outcome_body inner more inside⟩
    · rw [start, current]
      exact begun.trans (Nat.lt_succ_self _)
    · rw [current]
      exact Nat.lt_succ_self _
  · have stops : loop.continues scanner = false := Bool.eq_false_iff.mpr more
    by_cases sees : loop.SeesFraction scanner
    · have inside := sees.inside
      have flat : Character.isLineFeed scanner.peek = false := by
        rw [sees.2.1]
        decide
      exact ⟨_, ⟨(turn?_of_stops stops).trans (Loop.exit?_point sees inside),
        ⟨sound.scanner.advance inside flat, fun _ => begun.trans (Nat.lt_succ_self _)⟩,
        .inl (Nat.lt_succ_self _)⟩, Loop.outcome_point sees stops inside⟩
    · have exits := Loop.exit?_eq sound.scanner.inRange (fun _ => begun) sees
      exact ⟨_, ⟨(turn?_of_stops stops).trans exits,
        .at_segments (Loop.sound_close sound.scanner stops),
        .inr ⟨inner, rfl, loop.current_le_close scanner⟩⟩, (Loop.outcome_exit stops sees).symm⟩

/-- A stage in which the whole source has been read. -/
def IsFinished (stage : Stage) : Prop :=
  stage.loop = .segments ∧ stage.scanner.atEnd = true

/-- From a sound stage a turn succeeds.  It makes progress unless the scan is finished, and
it does not lead away from the states of the main loop. -/
theorem Sound.exists_turn (sound : stage.Sound source) :
    ∃ next, stage.turn? = some next ∧ next.Sound source ∧
      (stage.IsFinished ∨ stage.Advances next) ∧
      (Scanner.Reached source stage.outcome → Scanner.Reached source next.outcome) := by
  by_cases inner : stage.loop = .segments
  · obtain ⟨loop, scanner⟩ := stage
    obtain rfl : loop = .segments := inner
    by_cases inside : scanner.atEnd = false
    · obtain ⟨next, turns, outcome⟩ := exists_turn_segments sound.scanner inside
      refine ⟨next, turns.made, turns.sound, .inr turns.advances, fun reached => ?_⟩
      rw [outcome]
      exact .step inside reached
    · have ended : scanner.atEnd = true := by simpa using inside
      have stops : Loop.segments.continues scanner = false := by
        rw [Loop.continues, ended]
        rfl
      exact ⟨_, turn?_of_stops stops, sound, .inl ⟨rfl, ended⟩, id⟩
  · obtain ⟨next, turns, outcome⟩ := sound.exists_turn_inner inner
    refine ⟨next, turns.made, turns.sound, .inr turns.advances, fun reached => ?_⟩
    rw [outcome]
    exact reached

/-! ## The stages of a scan -/

theorem Visited.sound_and_reached (visited : Visited source stage) :
    stage.Sound source ∧ Scanner.Reached source stage.outcome := by
  induction visited with
  | initial =>
      exact ⟨.at_segments (Scanner.sound_ofText source), .initial⟩
  | turn _ made induction =>
      obtain ⟨next, succeeds, sound, _, reached⟩ := induction.1.exists_turn
      obtain rfl := Option.some.inj (made.symm.trans succeeds)
      exact ⟨sound, reached induction.2⟩

theorem Visited.turns {count : Nat} {next : Stage}
    (visited : Visited source stage) (made : stage.turns? count = some next) :
    Visited source next := by
  induction count generalizing stage with
  | zero =>
      obtain rfl := Option.some.inj made
      exact visited
  | succ count induction =>
      obtain ⟨between, first, rest⟩ := Option.bind_eq_some_iff.mp made
      exact induction (visited.turn first) rest

/-- The loops inside a segment are left after as many turns as there are characters left,
and one more turn that finishes the segment. -/
theorem Sound.exists_turns (sound : stage.Sound source) (inner : stage.loop ≠ .segments) :
    ∃ count ≤ source.length - stage.scanner.current + 1,
      stage.turns? count = some ⟨.segments, stage.outcome⟩ := by
  -- A turn that stays inside the segment takes one of the characters that are left.
  induction remains : source.length - stage.scanner.current using Nat.strong_induction_on
    generalizing stage with
  | _ left induction =>
      obtain ⟨next, turns, outcome⟩ := sound.exists_turn_inner inner
      by_cases back : next.loop = .segments
      · refine ⟨1, Nat.le_add_left 1 left, ?_⟩
        obtain ⟨loop, scanner⟩ := next
        obtain rfl : loop = .segments := back
        rw [turns?, turns.made, ← outcome]
        rfl
      · have further : stage.scanner.current < next.scanner.current := by
          rcases turns.advances with moved | ⟨_, finished, _⟩
          · exact moved
          · exact absurd finished back
        have bound := turns.sound.scanner.current_le
        obtain ⟨count, few, made⟩ := induction _ (by omega) turns.sound back rfl
        refine ⟨count + 1, by omega, ?_⟩
        rw [turns?, turns.made, ← outcome]
        exact made

theorem Visited.outcome (visited : Visited source stage) :
    Visited source ⟨.segments, stage.outcome⟩ := by
  by_cases inner : stage.loop = .segments
  · obtain ⟨loop, scanner⟩ := stage
    obtain rfl : loop = .segments := inner
    exact visited
  · obtain ⟨count, _, made⟩ := visited.sound_and_reached.1.exists_turns inner
    exact visited.turns made

/-- The stages of the loop over the segments are the states of the main loop. -/
theorem visited_segments_iff :
    Visited source ⟨.segments, scanner⟩ ↔ Scanner.Reached source scanner := by
  constructor
  · intro visited
    exact visited.sound_and_reached.2
  · intro reached
    induction reached with
    | initial =>
        exact .initial
    | @step scanner inside _ induction =>
        have sound : scanner.Sound source := induction.sound_and_reached.1.scanner
        obtain ⟨next, turns, outcome⟩ := exists_turn_segments sound inside
        rw [← outcome]
        exact (induction.turn turns.made).outcome

/-! ## Safety -/

/-- What is safe at a stage of the scan of a source text. -/
structure IsSafe (source : Text) (stage : Stage) : Prop where
  start_le_current : stage.scanner.start ≤ stage.scanner.current
  current_le_length : stage.scanner.current ≤ source.length
  startLine_eq : stage.scanner.startLine =
    1 + (source.take stage.scanner.start).countP Character.isLineFeed
  startLine_le_line : stage.scanner.startLine ≤ stage.scanner.line
  /-- A loop stops at the end of the source at the latest: what it takes is inside. -/
  continues_inside : stage.loop.continues stage.scanner = true →
    stage.scanner.current < source.length
  /-- So is the point of a number. -/
  point_inside : stage.loop.SeesFraction stage.scanner →
    stage.scanner.current < source.length
  /-- A loop inside a segment is left, and its segment finished. -/
  leaves : stage.loop ≠ .segments →
    ∃ count ≤ source.length - stage.scanner.current + 1,
      stage.turns? count = some ⟨.segments, stage.outcome⟩
  /-- The body of a string is cut out in range. -/
  body_inRange : stage.loop = .string → ∀ closed, stage.scanner.take? = some closed →
    closed.2.start + 1 ≤ closed.2.current - 1 ∧ closed.2.current - 1 ≤ source.length
  /-- No access fails, and there is progress up to the end. -/
  turn_succeeds : ∃ next, stage.turn? = some next ∧ (stage.IsFinished ∨ stage.Advances next)

theorem Sound.isSafe (sound : stage.Sound source) :
    stage.IsSafe source where
  start_le_current := sound.scanner.start_le
  current_le_length := sound.scanner.current_le
  startLine_eq := sound.scanner.startLine_eq
  startLine_le_line := sound.scanner.startLine_le_line
  continues_inside more := sound.scanner.current_lt (Loop.inside_of_continues more)
  point_inside sees := sound.scanner.current_lt sees.inside
  leaves := sound.exists_turns
  body_inRange inString closed taken := by
    obtain ⟨_, _, same⟩ := Option.map_eq_some_iff.mp taken
    have begun := sound.begun (by rw [inString]; decide)
    rw [← same]
    exact ⟨begun, sound.scanner.current_le⟩
  turn_succeeds := by
    obtain ⟨next, made, _, progress, _⟩ := sound.exists_turn
    exact ⟨next, made, progress⟩

end Stage

namespace Scanner

theorem Reached.scanAll {source : Text} {scanner : Scanner} (reached : Reached source scanner) :
    Reached source scanner.scanAll ∧ scanner.scanAll.atEnd = true := by
  fun_induction Scanner.scanAll scanner with
  | case1 scanner inside induction =>
      exact induction (.step inside reached)
  | case2 scanner ended =>
      exact ⟨reached, by simpa using ended⟩

/-- Every turn of the main loop takes a character at least. -/
theorem length_pieces_le (scanner : Scanner) :
    scanner.pieces.length ≤ scanner.source.size - scanner.current := by
  fun_induction pieces scanner with
  | case1 scanner inside induction =>
      have before := atEnd_eq_false_iff.mp inside
      have progress := scanner.current_lt_scanSegment inside
      rw [source_scanSegment] at induction
      rw [List.length_cons]
      omega
  | case2 scanner ended =>
      exact Nat.zero_le _

end Scanner

/-- A scan keeps its cursor between the start of the segment and the end of the source, at
every turn of every loop.  Every turn succeeds, so no access is out of range, and leads
through the states of the main loop.  Each turn of the main loop begins inside the source
and moves on, and the scan ends, behind as many of them as there are characters at most. -/
theorem scan_stays_in_source (source : Text) :
    (∀ stage, Stage.Visited source stage → stage.IsSafe source) ∧
    (∀ scanner, Stage.Visited source ⟨.segments, scanner⟩ ↔ Scanner.Reached source scanner) ∧
    (∀ scanner (inside : scanner.atEnd = false), Scanner.Reached source scanner →
      scanner.current < source.length ∧
        scanner.current < (scanner.scanSegment inside).current) ∧
    Scanner.Reached source (Scanner.ofText source).scanAll ∧
    (Scanner.ofText source).scanAll.current = source.length ∧
    (Scanner.ofText source).pieces.length ≤ source.length := by
  have sound : ∀ scanner, Scanner.Reached source scanner → scanner.Sound source := by
    intro scanner reached
    exact (Stage.visited_segments_iff.mpr reached).sound_and_reached.1.scanner
  obtain ⟨reached, ended⟩ := Scanner.Reached.scanAll (.initial : Scanner.Reached source _)
  refine ⟨fun stage visited => visited.sound_and_reached.1.isSafe,
    fun scanner => Stage.visited_segments_iff, ?inside, reached, ?whole, ?few⟩
  case inside =>
    intro scanner inside reached
    exact ⟨(sound scanner reached).current_lt inside, scanner.current_lt_scanSegment inside⟩
  case whole =>
    have bound := (sound _ reached).current_le
    have size := (sound _ reached).size_eq
    simp only [Scanner.atEnd, decide_eq_true_eq] at ended
    omega
  case few =>
    have bound := (Scanner.ofText source).length_pieces_le
    have size := (Scanner.sound_ofText source).size_eq
    rw [size] at bound
    exact bound

/-- A string that is open at the end, behind a NUL that looks like the end. -/
theorem scan_stays_in_source_nul :
    ∃ stage, Stage.Visited "\"\x00".toList stage ∧ stage.loop = .string ∧
      stage.scanner.current = 2 ∧ stage.IsSafe "\"\x00".toList := by
  have start : Stage.Visited "\"\x00".toList ⟨.segments, Scanner.ofText "\"\x00".toList⟩ :=
    .initial
  have made : Stage.turns? 2 ⟨.segments, Scanner.ofText "\"\x00".toList⟩ =
      some ⟨.string, ⟨#['"', '\x00'], 0, 2, 1, 1, #[]⟩⟩ := by
    decide +kernel
  have visited := start.turns made
  exact ⟨_, visited, rfl, rfl, (scan_stays_in_source "\"\x00".toList).1 _ visited⟩

end LoxLexer
