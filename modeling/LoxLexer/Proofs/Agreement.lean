import LoxLexer.Proofs.Blanks
import LoxLexer.Proofs.CommandLine
import LoxLexer.Proofs.LineBoundary

/-!
# Scripts at the prompt

A script in which no string is left open at the end of a line can be entered at
the prompt line by line.  The prompt ends each line with a row of its own and knows
no line but the first; apart from that both print the same tokens and complain of
the same faults.
-/

namespace LoxLexer

/-- A line that the prompt answers and that leaves no string open. -/
structure IsClosedLine (text : Text) : Prop where
  unbroken : '\n' ∉ text
  visible : Lines.trimmed text ≠ []
  closed : ∀ located ∈ (scan text).faults, located.fault ≠ .unterminatedString

theorem IsClosedLine.ne_nil {text : Text} (line : IsClosedLine text) :
    text ≠ [] := by
  rintro rfl
  exact line.visible rfl

/-- Lines with line feeds between them, and with `finish` behind the last line: a line
feed or nothing. -/
inductive Joins : Text → List Text → Text → Prop where
  | last (text : Text) : Joins [] [text] text
  | closed (text : Text) : Joins ['\n'] [text] (text ++ ['\n'])
  | line (text : Text) {finish : Text} {texts : List Text} {source : Text} :
      Joins finish texts source →
      Joins finish (text :: texts) (text ++ '\n' :: source)

theorem joins_intercalate
    {texts : List Text} {finish : Text} (present : texts ≠ [])
    (finishes : finish = [] ∨ finish = ['\n']) :
    Joins finish texts (['\n'].intercalate texts ++ finish) := by
  induction texts with
  | nil =>
      exact absurd rfl present
  | cons text rest induction =>
      cases rest with
      | nil =>
          rw [List.intercalate_singleton]
          rcases finishes with rfl | rfl
          · rw [List.append_nil]
            exact .last text
          · exact .closed text
      | cons second others =>
          rw [List.intercalate_cons_cons, List.append_assoc, List.append_assoc]
          exact .line text (induction (List.cons_ne_nil second others))

/-! ## Lines as they are scanned -/

/-- What is cut off at the end of a line changes nothing in its scan. -/
theorem scan_trimmed {text : Text} (unbroken : '\n' ∉ text) :
    scan (Lines.trimmed text) = scan text := by
  obtain ⟨front, lineEnd, rfl, isEnd, stops⟩ := exists_trimmed text
  have blank : ∀ character ∈ lineEnd, Character.isBlank character = true := by
    intro character member
    rcases isEnd character member with rfl | rfl
    · rfl
    · rfl
  have noFeed : '\n' ∉ lineEnd := fun member =>
    unbroken (List.mem_append_right front member)
  rw [trimmed_append stops isEnd, scan_append_blanks blank,
    Character.countP_isLineFeed_eq_zero_iff.mpr noFeed]
  rfl

theorem lastLine_of_unbroken {text : Text} (unbroken : '\n' ∉ text) :
    (scan text).lastLine = 1 := by
  rw [lastLine_scan, Character.countP_isLineFeed_eq_zero_iff.mpr unbroken]

/-- The events of a text behind a closed line stand one line further down. -/
theorem events_append_lineFeed
    {text : Text} (line : IsClosedLine text) (source : Text) :
    (scan (text ++ '\n' :: source)).events =
      (scan text).events ++ (scan source).events.map (Event.raise 1) := by
  have lastLine := lastLine_of_unbroken line.unbroken
  rw [scan_eq_ofSegments] at lastLine
  rw [scan_eq_ofSegments, segments_append_lineFeed source (closed_of_faults line.closed),
    Scan.events_ofSegments_append, lastLine, Scan.ofSegments_lineFeed,
    ← scan_eq_ofSegments]
  rfl

/-- The rows of a line's tokens, without the one for the end of the line. -/
def lineRows (text : Text) : List Text :=
  (scan text).tokens.dropLast.map Token.row

theorem lineRows_eq (text : Text) :
    lineRows text = ((scan text).events.filterMap Event.token?).map Token.row := by
  rw [lineRows, Scan.tokens, List.dropLast_concat]

theorem map_row_line (text : Text) :
    (scan text).tokens.map Token.row = lineRows text ++ ["EOF  nil".toList] := by
  rw [lineRows_eq, Scan.tokens, List.map_append]
  rfl

section Joined

variable {finish : Text} {texts : List Text} {source : Text}
  (joins : Joins finish texts source) (lines : ∀ text ∈ texts, IsClosedLine text)

include joins lines

/-- The events of closed lines are those of each line, put where it stands. -/
theorem events_of_joins (above : Nat) :
    (scan source).events.map (Event.raise above) =
      (texts.zipIdx above).flatMap fun entry =>
        (scan entry.1).events.map (Event.raise entry.2) := by
  -- Every line feed between two lines raises all that follows by one more line.
  induction joins generalizing above with
  | last text =>
      exact (List.append_nil _).symm
  | closed text =>
      have blank : ∀ character ∈ ['\n'], Character.isBlank character = true := by
        rw [List.forall_mem_singleton]
        rfl
      rw [scan_append_blanks blank]
      exact (List.append_nil _).symm
  | line text rest induction =>
      rw [List.forall_mem_cons] at lines
      rw [events_append_lineFeed lines.1, List.map_append, List.map_map,
        List.zipIdx_cons, List.flatMap_cons, ← induction lines.2]
      simp only [Function.comp_def, Event.raise_raise, Nat.add_comm 1 above]

/-- The rows of a script are those of its lines, and a last row. -/
theorem map_row_of_joins :
    (scan source).tokens.map Token.row =
      texts.flatMap lineRows ++ ["EOF  nil".toList] := by
  have rows : ∀ entry : Text × Nat,
      ((((scan entry.1).events.map (Event.raise entry.2)).filterMap Event.token?).map
        Token.row) = lineRows entry.1 := by
    intro entry
    rw [lineRows_eq, Event.raise_eq_map, Event.filterMap_token?_map, List.map_map]
    rfl
  have entries := congrArg (List.flatMap lineRows) (List.zipIdx_map_fst 0 texts)
  rw [List.flatMap_map] at entries
  rw [Scan.tokens, List.map_append, ← Scan.events_raise_zero,
    events_of_joins joins lines, List.filterMap_flatMap, List.map_flatMap, ← entries]
  simp only [rows]
  rfl

/-- A fault of a script stands on the line that has it by itself. -/
theorem faults_of_joins :
    (scan source).faults =
      (texts.zipIdx 1).flatMap fun entry =>
        (scan entry.1).faults.map fun located => ⟨entry.2, located.fault⟩ := by
  rw [Scan.faults, ← Scan.events_raise_zero, events_of_joins joins lines,
    List.filterMap_flatMap, List.zipIdx_succ, List.flatMap_map]
  apply List.flatMap_congr
  intro entry member
  rw [Event.raise_eq_map, Event.filterMap_fault?_map]
  apply List.map_congr_left
  intro located reported
  have inTexts := List.fst_mem_of_mem_zipIdx member
  have first := line_of_unbroken (lines entry.1 inTexts).unbroken reported
  rw [LocatedFault.raise, first, Nat.add_comm]

theorem faults_eq_nil_iff_of_joins :
    (scan source).faults = [] ↔ ∀ text ∈ texts, (scan text).faults = [] := by
  rw [faults_of_joins joins lines, List.flatMap_eq_nil_iff]
  constructor
  · intro none text member
    rw [← List.zipIdx_map_fst 1 texts] at member
    obtain ⟨entry, inEntries, rfl⟩ := List.mem_map.mp member
    exact List.map_eq_nil_iff.mp (none entry inEntries)
  · intro none entry member
    rw [none entry.1 (List.fst_mem_of_mem_zipIdx member), List.map_nil]

end Joined

/-! ## Lines as they are shown -/

/-- What a script shows of a line.  In front of a line feed one carriage return belongs
to the ending of the line. -/
def lineShown (closed : Prop) [Decidable closed] (text : Text) : Text :=
  if closed ∧ text.getLast? = some '\r' then text.dropLast else text

theorem withoutEnding_closed (text : Text) :
    Lines.withoutEnding (text ++ ['\n']) = lineShown True text := by
  by_cases isReturn : text.getLast? = some '\r'
  · obtain ⟨body, rfl⟩ := List.getLast?_eq_some_iff.mp isReturn
    rw [lineShown, if_pos ⟨trivial, isReturn⟩, List.dropLast_concat, List.append_assoc]
    exact Lines.withoutEnding_carriageReturn body
  · rw [lineShown, if_neg (fun both => isReturn both.2)]
    exact Lines.withoutEnding_lineFeed isReturn

theorem ofText_closed_line {text : Text} (unbroken : '\n' ∉ text) (source : Text) :
    Lines.ofText (text ++ '\n' :: source) = lineShown True text :: Lines.ofText source := by
  rw [Lines.ofText, Lines.cut_line (Lines.inside_of_unbroken unbroken) rfl, List.map_cons,
    withoutEnding_closed, Lines.ofText]

theorem Joins.ne_nil
    {finish : Text} {texts : List Text} {source : Text}
    (joins : Joins finish texts source) :
    texts ≠ [] := by
  cases joins <;> exact List.cons_ne_nil _ _

section Shown

variable {finish : Text} {texts : List Text} {source : Text}
  (joins : Joins finish texts source) (lines : ∀ text ∈ texts, IsClosedLine text)

include joins lines

/-- The lines that a script is cut into are the lines that it is made of. -/
theorem getElem?_ofText_of_joins
    {above : Nat} {entry : Text × Nat} (member : entry ∈ texts.zipIdx (above + 1)) :
    (Lines.ofText source)[entry.2 - (above + 1)]? =
      some (lineShown (entry.2 < above + texts.length ∨ finish ≠ []) entry.1) := by
  induction joins generalizing above with
  | last text =>
      obtain rfl := List.mem_singleton.mp member
      have line := lines text (List.mem_singleton_self text)
      have first := Lines.head?_ofText line.ne_nil line.unbroken .atEnd
      rw [List.append_nil, List.head?_eq_getElem?] at first
      simpa [lineShown] using first
  | closed text =>
      obtain rfl := List.mem_singleton.mp member
      have line := lines text (List.mem_singleton_self text)
      simp [ofText_closed_line line.unbroken, lineShown]
  | line text rest induction =>
      rw [List.forall_mem_cons] at lines
      rw [ofText_closed_line lines.1.unbroken]
      rcases List.mem_cons.mp member with rfl | later
      · have more := List.length_pos_iff.mpr rest.ne_nil
        simp [lineShown, more]
      · have behind := List.le_snd_of_mem_zipIdx later
        have index : entry.2 - (above + 1) = entry.2 - (above + 1 + 1) + 1 := by
          omega
        rw [index, List.getElem?_cons_succ, induction lines.2 later]
        simp only [List.length_cons, Nat.add_assoc, Nat.add_comm 1]

theorem sourceLine_of_joins
    {entry : Text × Nat} (member : entry ∈ texts.zipIdx 1) :
    sourceLine source entry.2 =
      lineShown (entry.2 < texts.length ∨ finish ≠ []) entry.1 := by
  have found : (Lines.ofText source)[entry.2 - (0 + 1)]? =
      some (lineShown (entry.2 < 0 + texts.length ∨ finish ≠ []) entry.1) :=
    getElem?_ofText_of_joins joins lines member
  simp only [Nat.zero_add] at found
  rw [sourceLine, found, Option.getD_some]

end Shown

/-! ## Lines as they are entered -/

theorem conversation_of_line
    {text tail : Text} {later : Bytes} {texts : List Text} {ending : Ending}
    (line : IsClosedLine text) (isEnd : IsLineEnd tail)
    (isLine : IsLine ((text ++ tail).flatMap String.utf8EncodeChar) later)
    (rest : Conversation later texts ending) :
    Conversation ((text ++ tail).flatMap String.utf8EncodeChar ++ later)
      (Lines.trimmed text :: texts) ending := by
  obtain ⟨front, lineEnd, rfl, isLineEnd, stops⟩ := exists_trimmed text
  have front_eq := trimmed_append stops isLineEnd
  -- The line is answered, since something of it is left.
  have isTrimmed : IsTrimmed front := by
    apply stops.resolve_left
    rw [← front_eq]
    exact line.visible
  have encodes : Encodes ((front ++ lineEnd ++ tail).flatMap String.utf8EncodeChar)
      (front ++ (lineEnd ++ tail)) := by
    rw [List.append_assoc]
    rfl
  rw [front_eq]
  apply Conversation.answered isLine encodes isTrimmed _ rest
  intro character member
  rcases List.mem_append.mp member with inEnd | inTail
  · exact isLineEnd character inEnd
  · exact isEnd character inTail

/-- A line with its line feed, in front of whatever follows. -/
theorem conversation_of_closed_line
    {text : Text} {later : Bytes} {texts : List Text} {ending : Ending}
    (line : IsClosedLine text) (rest : Conversation later texts ending) :
    Conversation ((text ++ ['\n']).flatMap String.utf8EncodeChar ++ later)
      (Lines.trimmed text :: texts) ending := by
  apply conversation_of_line line _ _ rest
  · intro character member
    exact Or.inr (List.mem_singleton.mp member)
  · rw [List.flatMap_append]
    exact .closed later (not_mem_encoding_of_unbroken line.unbroken)

theorem conversation_of_joins
    {finish : Text} {texts : List Text} {source : Text} (joins : Joins finish texts source)
    (lines : ∀ text ∈ texts, IsClosedLine text) :
    Conversation (source.flatMap String.utf8EncodeChar) (texts.map Lines.trimmed)
      .exhausted := by
  induction joins with
  | last text =>
      have line := lines text (List.mem_singleton_self text)
      have isLine : IsLine ((text ++ []).flatMap String.utf8EncodeChar) [] := by
        rw [List.append_nil]
        exact .last (flatMap_utf8EncodeChar_eq_nil_iff.not.mpr line.ne_nil)
          (not_mem_encoding_of_unbroken line.unbroken)
      have noEnd : IsLineEnd [] := by simp [IsLineEnd]
      have entered := conversation_of_line line noEnd isLine .exhausted
      rwa [List.append_nil, List.append_nil] at entered
  | closed text =>
      have line := lines text (List.mem_singleton_self text)
      have entered := conversation_of_closed_line line .exhausted
      rwa [List.append_nil] at entered
  | line text rest induction =>
      rw [List.forall_mem_cons] at lines
      have entered := conversation_of_closed_line lines.1 (induction lines.2)
      rwa [← List.flatMap_append, List.append_assoc] at entered

theorem transcript_trimmed
    {texts : List Text} (lines : ∀ text ∈ texts, IsClosedLine text) :
    transcript (texts.map Lines.trimmed) =
      (texts.flatMap fun text =>
        "> ".toList ++ closeRows (lineRows text ++ ["EOF  nil".toList])) ++
        "> ".toList := by
  rw [transcript, List.flatMap_map]
  congr 1
  apply List.flatMap_congr
  intro text member
  rw [scan_trimmed (lines text member).unbroken, map_row_line]

/-- A script of closed lines and the same lines at the prompt: the script prints the
rows of all its lines and then one last row, where the prompt prints a last row for
each line and markers around them.  Both complain of the same faults in the same
order, the script on the line in question, the prompt on the first line of each
entry.  Only the script tells by its exit status. -/
theorem script_agrees_with_prompt
    {texts : List Text} {finish : Text} {read : Text → Except AccessFault Bytes}
    {path : Text} {input : Bytes}
    (present : texts ≠ []) (lines : ∀ text ∈ texts, IsClosedLine text)
    (finishes : finish = [] ∨ finish = ['\n'])
    (script : IsScript read path (['\n'].intercalate texts ++ finish))
    (encodes : Encodes input (['\n'].intercalate texts ++ finish))
    (unread : Bytes) (elsewhere : Text → Except AccessFault Bytes) (coloured : Bool) :
    Program.outcome [path] read unread coloured =
        { exitStatus := if ∀ text ∈ texts, (scan text).faults = [] then 0 else 65
          output := closeRows (texts.flatMap lineRows ++ ["EOF  nil".toList])
          errorOutput := closeRows
            ((texts.zipIdx 1).flatMap fun entry =>
              (scan entry.1).faults.flatMap fun located =>
                shownRows coloured located.fault.wording ⟨entry.2, some path⟩
                  (lineShown (entry.2 < texts.length ∨ finish ≠ []) entry.1)) } ∧
      Program.outcome [] elsewhere input coloured =
        { exitStatus := 0
          output :=
            (texts.flatMap fun text =>
              "> ".toList ++ closeRows (lineRows text ++ ["EOF  nil".toList])) ++
              "> ".toList
          errorOutput := closeRows
            (texts.flatMap fun text =>
              (scan text).faults.flatMap fun located =>
                shownRows coloured located.fault.wording ⟨1, none⟩
                  (Lines.trimmed text)) } := by
  have joins := joins_intercalate present finishes
  constructor
  · have status : (if (scan (['\n'].intercalate texts ++ finish)).faults = [] then 0 else 65) =
        if ∀ text ∈ texts, (scan text).faults = [] then 0 else 65 :=
      if_congr (faults_eq_nil_iff_of_joins joins lines) rfl rfl
    rw [run_script script, status, map_row_of_joins joins lines,
      faults_of_joins joins lines, List.flatMap_assoc]
    simp only [List.flatMap_map]
    congr 2
    apply List.flatMap_congr
    intro entry member
    rw [sourceLine_of_joins joins lines member]
  · have conversation := conversation_of_joins joins lines
    rw [← encodes] at conversation
    have noEnd : Ending.exhausted.rows coloured = [] := rfl
    rw [run_prompt conversation, transcript_trimmed lines, List.flatMap_map, noEnd,
      List.append_nil, if_neg Ending.noConfusion]
    congr 2
    apply List.flatMap_congr
    intro text member
    rw [scan_trimmed (lines text member).unbroken]

/-- A carriage return behind a point, a comment with a quote in it, and a fault that
has another line in the script than at the prompt. -/
theorem script_agrees_with_prompt_third_line :
    (∀ text ∈ ["1.\r".toList, "// \"".toList, "@ a".toList], IsClosedLine text) ∧
      Program.run ["script".toList] (.ofScript "1.\r\n// \"\n@ a\n".toList) []
          ⟨none, none, none⟩ =
        { exitStatus := 65
          output := closeRows ["number 1 1".toList, ". . nil".toList,
            "identifier a nil".toList, "EOF  nil".toList]
          errorOutput := closeRows (diagnosticRows "Unexpected character '@'.".toList
            ⟨3, some "script".toList⟩ "@ a".toList) } ∧
      Program.run [] ⟨[], []⟩
          ("1.\r\n// \"\n@ a\n".toList.flatMap String.utf8EncodeChar)
          ⟨none, none, none⟩ =
        { exitStatus := 0
          output := "> ".toList ++ closeRows ["number 1 1".toList, ". . nil".toList,
              "EOF  nil".toList] ++ "> ".toList ++ closeRows ["EOF  nil".toList] ++
            "> ".toList ++ closeRows ["identifier a nil".toList, "EOF  nil".toList] ++
            "> ".toList
          errorOutput := closeRows (diagnosticRows "Unexpected character '@'.".toList
            ⟨1, none⟩ "@ a".toList) } := by
  have first : IsClosedLine "1.\r".toList := ⟨by decide, by decide, by decide +kernel⟩
  have second : IsClosedLine "// \"".toList := ⟨by decide, by decide, by decide +kernel⟩
  have third : IsClosedLine "@ a".toList := ⟨by decide, by decide, by decide +kernel⟩
  have lines : ∀ text ∈ ["1.\r".toList, "// \"".toList, "@ a".toList],
      IsClosedLine text := by
    rw [List.forall_mem_cons, List.forall_mem_cons, List.forall_mem_singleton]
    exact ⟨first, second, third⟩
  have agreement := script_agrees_with_prompt (List.cons_ne_nil _ _) lines (Or.inr rfl)
    (Folder.isScript_ofScript _) rfl [] (Folder.mk [] []).read false
  refine ⟨lines, agreement.1.trans ?_, agreement.2.trans ?_⟩
  · decide +kernel
  · decide +kernel

end LoxLexer
