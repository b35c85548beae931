import LoxLexer.Proofs.CommandLine
import LoxLexer.Proofs.TokenShape

/-!
# Reading printed tokens back

Strings are printed without quotes around their value, so a row may be broken and
may look like other rows.  Still no row begins another: its kind is told by the
first space, its lexeme by the kind, and its value by both.
-/

namespace LoxLexer

/-- Tokens that differ in their lines at most. -/
structure Token.Alike (left right : Token) : Prop where
  kind : left.kind = right.kind
  lexeme : left.lexeme = right.lexeme
  literal : left.literal = right.literal

/-! ## Kinds -/

theorem Kind.find?_spelling (kind : Kind) :
    (all.find? fun other => other.spelling == kind.spelling) = some kind := by
  have table : ∀ kind ∈ all,
      (all.find? fun other => other.spelling == kind.spelling) = some kind := by
    decide +kernel
  exact table kind kind.mem_all

theorem Kind.spaceless_spelling (kind : Kind) :
    ' ' ∉ kind.spelling := by
  intro member
  cases isBlank_eq_false_of_mem_spelling member

/-! ## Lexemes -/

theorem IsWord.spaceless {letters : Text} (isWord : IsWord letters) :
    ' ' ∉ letters := by
  intro member
  cases isWord.all_wordCharacters ' ' member

theorem Numeral.WellFormed.spaceless {numeral : Numeral} (formed : numeral.WellFormed) :
    ' ' ∉ numeral.text := by
  intro member
  rcases formed.isDigit_or_point member with digit | point
  · cases digit
  · cases point

/-- A lexeme ends at the first space, but for a string, which ends at its quote. -/
theorem Shape.lexeme_unique
    {kind : Kind} {lexeme other behind rest : Text} {left right : Literal}
    (shape : Shape kind lexeme left) (shapeOther : Shape kind other right)
    (joined : lexeme ++ ' ' :: behind = other ++ ' ' :: rest) :
    lexeme = other ∧ behind = rest := by
  cases shape with
  | identifier isWord _ =>
      cases shapeOther with
      | identifier isOther _ =>
          exact delimited_unique isWord.spaceless isOther.spaceless joined
  | number formed =>
      cases shapeOther with
      | number formedOther =>
          exact delimited_unique formed.spaceless formedOther.spaceless joined
  | string unquoted =>
      cases shapeOther with
      | string unquotedOther =>
          obtain ⟨rfl, later⟩ := string_unique unquoted unquotedOther joined
          exact ⟨rfl, (List.cons.inj later).2⟩
  | _ =>
      cases shapeOther
      exact ⟨rfl, (List.cons.inj (List.append_cancel_left joined)).2⟩

/-! ## Tokens -/

namespace Token

theorem Alike.row_eq {left right : Token} (alike : left.Alike right) :
    left.row = right.row := by
  rw [row, alike.kind, alike.lexeme, alike.literal, row]

/-- No printed token begins another, whatever is printed behind both. -/
theorem display_unique
    {left right : Token} {behind rest : Text}
    (shaped : left.IsShaped) (shapedRight : right.IsShaped)
    (joined : left.display ++ behind = right.display ++ rest) :
    left.Alike right ∧ behind = rest := by
  have spaced : left.kind.spelling ++ ' ' ::
        (left.lexeme ++ ' ' :: (left.literal.display ++ behind)) =
      right.kind.spelling ++ ' ' ::
        (right.lexeme ++ ' ' :: (right.literal.display ++ rest)) := by
    simpa [display] using joined
  -- The shape at the left is taken over to the right part by part.
  obtain ⟨kind, afterKind⟩ := Kind.unique_of_joined Kind.find?_spelling
    Kind.spaceless_spelling spaced
  rw [IsShaped, kind] at shaped
  obtain ⟨lexeme, afterLexeme⟩ := shaped.lexeme_unique shapedRight afterKind
  rw [lexeme] at shaped
  have literal := shaped.literal_unique shapedRight
  rw [literal] at afterLexeme
  exact ⟨⟨kind, lexeme, literal⟩, List.append_cancel_left afterLexeme⟩

end Token

/-! ## Rows of tokens -/

/-- Shaped tokens are read back from their rows, one after the other. -/
theorem alike_of_closeRows
    {lefts rights : List Token}
    (shaped : ∀ token ∈ lefts, token.IsShaped)
    (shapedRight : ∀ token ∈ rights, token.IsShaped)
    (same : closeRows (lefts.map Token.row) = closeRows (rights.map Token.row)) :
    List.Forall₂ Token.Alike lefts rights := by
  induction lefts generalizing rights with
  | nil =>
      cases rights with
      | nil => exact .nil
      | cons right others =>
          exact absurd (closeRows_eq_nil_iff.mp same.symm) (List.cons_ne_nil _ _)
  | cons left rest induction =>
      cases rights with
      | nil =>
          exact absurd (closeRows_eq_nil_iff.mp same) (List.cons_ne_nil _ _)
      | cons right others =>
          rw [List.forall_mem_cons] at shaped shapedRight
          have joined : left.display ++ '\n' :: closeRows (rest.map Token.row) =
              right.display ++ '\n' :: closeRows (others.map Token.row) := by
            simpa [closeRows, Token.display_eq_row] using same
          obtain ⟨alike, later⟩ :=
            Token.display_unique shaped.1 shapedRight.1 joined
          exact .cons alike
            (induction shaped.2 shapedRight.2 (List.cons.inj later).2)

theorem map_row_of_alike
    {lefts rights : List Token} (alike : List.Forall₂ Token.Alike lefts rights) :
    lefts.map Token.row = rights.map Token.row := by
  induction alike with
  | nil => rfl
  | cons alike _ induction => rw [List.map_cons, List.map_cons, alike.row_eq, induction]

/-- Two scripts print the same just where their tokens are the same but for the
lines.  What strings hold does not matter, be it what rows of tokens look like. -/
theorem script_output_determines_tokens
    {read otherRead : Text → Except AccessFault Bytes}
    {path otherPath source other : Text}
    (script : IsScript read path source) (scriptOther : IsScript otherRead otherPath other)
    (input otherInput : Bytes) (coloured otherColoured : Bool) :
    (Program.outcome [path] read input coloured).output =
        (Program.outcome [otherPath] otherRead otherInput otherColoured).output ↔
      List.Forall₂ Token.Alike (scan source).tokens (scan other).tokens := by
  rw [run_script script, run_script scriptOther]
  constructor
  · exact alike_of_closeRows (isShaped_of_mem_tokens source) (isShaped_of_mem_tokens other)
  · intro alike
    exact congrArg closeRows (map_row_of_alike alike)

/-- A string may hold what looks like the end of the output, and more rows behind
it. -/
theorem script_output_of_broken_string :
    IsScript (Folder.ofScript "\"a\nEOF  nil\n\" // b".toList).read "script".toList
        "\"a\nEOF  nil\n\" // b".toList ∧
      IsScript (Folder.ofScript "@\r\n\"a\nEOF  nil\n\"\t".toList).read "script".toList
        "@\r\n\"a\nEOF  nil\n\"\t".toList ∧
      List.Forall₂ Token.Alike (scan "\"a\nEOF  nil\n\" // b".toList).tokens
        (scan "@\r\n\"a\nEOF  nil\n\"\t".toList).tokens := by
  have script := Folder.isScript_ofScript "\"a\nEOF  nil\n\" // b".toList
  have scriptOther := Folder.isScript_ofScript "@\r\n\"a\nEOF  nil\n\"\t".toList
  refine ⟨script, scriptOther, ?_⟩
  apply (script_output_determines_tokens script scriptOther [] [] false false).mp
  decide +kernel

end LoxLexer
