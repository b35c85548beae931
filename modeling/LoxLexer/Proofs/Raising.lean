import LoxLexer.Proofs.Findings

/-!
# Scans that begin further down

The line on which a row of segments begins enters a scan in one way only: it is
added to every line that the scan records.  A row in two parts is therefore
scanned part by part, the second part from the line on which the first one ends.
-/

namespace LoxLexer

/-! ## Raising lines -/

def Token.raise (lines : Nat) (token : Token) : Token :=
  { token with line := token.line + lines }

def LocatedFault.raise (lines : Nat) (located : LocatedFault) : LocatedFault :=
  { located with line := located.line + lines }

def Event.raise (lines : Nat) : Event → Event
  | .token found => .token (found.raise lines)
  | .fault located => .fault (located.raise lines)

/-- A scan with every line in it raised, the last one included. -/
def Scan.raise (lines : Nat) (scan : Scan) : Scan where
  events := scan.events.map (Event.raise lines)
  lastLine := scan.lastLine + lines

theorem Event.raise_eq_map (lines : Nat) :
    Event.raise lines = Event.map (Token.raise lines) (LocatedFault.raise lines) := by
  funext event
  cases event with
  | token found => rfl
  | fault located => rfl

theorem Event.raise_raise (lines further : Nat) (event : Event) :
    (event.raise lines).raise further = event.raise (lines + further) := by
  cases event with
  | token found => simp only [raise, Token.raise, Nat.add_assoc]
  | fault located => simp only [raise, LocatedFault.raise, Nat.add_assoc]

namespace Scan

theorem events_raise_zero (scan : Scan) :
    scan.events.map (Event.raise 0) = scan.events := by
  have same : Event.raise 0 = id := by
    funext event
    cases event <;> rfl
  rw [same, List.map_id]

theorem tokens_raise (lines : Nat) (scan : Scan) :
    (scan.raise lines).tokens = scan.tokens.map (Token.raise lines) := by
  rw [tokens, raise, Event.raise_eq_map, Event.filterMap_token?_map, tokens,
    List.map_append]
  rfl

theorem faults_raise (lines : Nat) (scan : Scan) :
    (scan.raise lines).faults = scan.faults.map (LocatedFault.raise lines) := by
  rw [faults, raise, Event.raise_eq_map, Event.filterMap_fault?_map, faults]

end Scan

/-! ## Rows that begin further down -/

theorem Segment.event?_add (segment : Segment) (line lines : Nat) :
    segment.event? (line + lines) = (segment.event? line).map (Event.raise lines) := by
  cases segment <;> rfl

namespace Scan

theorem ofSegments_add (line lines : Nat) (row : List Segment) :
    ofSegments (line + lines) row = (ofSegments line row).raise lines := by
  induction row generalizing line with
  | nil =>
      rfl
  | cons segment rest induction =>
      have further : line + lines + segment.lineFeeds =
          line + segment.lineFeeds + lines := by
        omega
      rw [ofSegments, further, induction, segment.event?_add, Option.toList_map]
      simp only [ofSegments, raise, List.map_append]

theorem events_ofSegments_append (line : Nat) (before after : List Segment) :
    (ofSegments line (before ++ after)).events =
      (ofSegments line before).events ++
        (ofSegments (ofSegments line before).lastLine after).events := by
  induction before generalizing line with
  | nil =>
      rfl
  | cons segment rest induction =>
      simp only [List.cons_append, ofSegments, induction, List.append_assoc]

theorem lastLine_ofSegments_append (line : Nat) (before after : List Segment) :
    (ofSegments line (before ++ after)).lastLine =
      (ofSegments (ofSegments line before).lastLine after).lastLine := by
  induction before generalizing line with
  | nil =>
      rfl
  | cons segment rest induction =>
      simp only [List.cons_append, ofSegments, induction]

section Joined

variable (line : Nat) (before after : List Segment)

/-- The tokens of a row in two parts, the end of the input among them only
once. -/
theorem tokens_ofSegments_append :
    (ofSegments line (before ++ after)).tokens =
      (ofSegments line before).events.filterMap Event.token? ++
        (ofSegments (ofSegments line before).lastLine after).tokens := by
  rw [tokens, events_ofSegments_append, lastLine_ofSegments_append,
    List.filterMap_append, List.append_assoc, tokens]

theorem faults_ofSegments_append :
    (ofSegments line (before ++ after)).faults =
      (ofSegments line before).faults ++
        (ofSegments (ofSegments line before).lastLine after).faults := by
  rw [faults, events_ofSegments_append, List.filterMap_append, faults, faults]

end Joined

end Scan

end LoxLexer
