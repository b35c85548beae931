import LoxLexer.Proofs.Segment

/-!
# Changing what a scan finds

Tokens and faults are changed one by one, each where it stands, and the lines of
a scan are left alone.  A row whose segments contribute what the segments of
another row do, but for such a change, has the changed scan.
-/

namespace LoxLexer

section Change

variable (onToken : Token → Token) (onFault : LocatedFault → LocatedFault)

namespace Event

/-- Change what an event carries, be it a token or a fault. -/
def map : Event → Event
  | token found => token (onToken found)
  | fault located => fault (onFault located)

theorem token?_map (event : Event) :
    (event.map onToken onFault).token? = event.token?.map onToken := by
  cases event with
  | token found => rfl
  | fault located => rfl

theorem fault?_map (event : Event) :
    (event.map onToken onFault).fault? = event.fault?.map onFault := by
  cases event with
  | token found => rfl
  | fault located => rfl

theorem filterMap_token?_map (events : List Event) :
    (events.map (map onToken onFault)).filterMap token? =
      (events.filterMap token?).map onToken := by
  rw [List.filterMap_map, List.map_filterMap]
  simp only [Function.comp_def, token?_map]

theorem filterMap_fault?_map (events : List Event) :
    (events.map (map onToken onFault)).filterMap fault? =
      (events.filterMap fault?).map onFault := by
  rw [List.filterMap_map, List.map_filterMap]
  simp only [Function.comp_def, fault?_map]

end Event

namespace Scan

/-- A scan with its tokens and its faults changed. -/
def map (scan : Scan) : Scan where
  events := scan.events.map (Event.map onToken onFault)
  lastLine := scan.lastLine

theorem tokens_map
    (keepsEnd : ∀ line, onToken (Token.endOfInput line) = Token.endOfInput line)
    (scan : Scan) :
    (scan.map onToken onFault).tokens = scan.tokens.map onToken := by
  rw [tokens, map, Event.filterMap_token?_map, tokens, List.map_append,
    List.map_singleton, keepsEnd]

theorem faults_map (scan : Scan) :
    (scan.map onToken onFault).faults = scan.faults.map onFault :=
  Event.filterMap_fault?_map onToken onFault scan.events

/-- A changed segment in front of a row with the changed scan. -/
theorem ofSegments_cons_map
    {image segment : Segment} {images row : List Segment} {line : Nat}
    (event : image.event? line = (segment.event? line).map (Event.map onToken onFault))
    (lineFeeds : image.lineFeeds = segment.lineFeeds)
    (later : ofSegments (line + segment.lineFeeds) images =
      (ofSegments (line + segment.lineFeeds) row).map onToken onFault) :
    ofSegments line (image :: images) =
      (ofSegments line (segment :: row)).map onToken onFault := by
  rw [ofSegments, event, lineFeeds, later, Option.toList_map]
  simp only [ofSegments, map, List.map_append]

end Scan

end Change

end LoxLexer
