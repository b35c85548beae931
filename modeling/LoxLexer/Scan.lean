import LoxLexer.Fault
import LoxLexer.Token

/-! # What a scan finds

A scan gives one event for each token and each fault of a source text, in source
order.  Blanks and comments leave no trace but the line count.
-/

namespace LoxLexer

/-- What a scan finds at one place. -/
inductive Event where
  | token (found : Token)
  | fault (located : LocatedFault)
  deriving DecidableEq, Repr

namespace Event

def token? : Event → Option Token
  | token found => some found
  | fault _ => none

def fault? : Event → Option LocatedFault
  | token _ => none
  | fault located => some located

end Event

/-- The events of a source text in source order, and the line it ends on. -/
structure Scan where
  events : List Event
  lastLine : Nat
  deriving DecidableEq, Repr

namespace Scan

/-- The tokens of a scan; the last one marks the end of the input. -/
def tokens (scan : Scan) : List Token :=
  scan.events.filterMap Event.token? ++ [Token.endOfInput scan.lastLine]

def faults (scan : Scan) : List LocatedFault :=
  scan.events.filterMap Event.fault?

end Scan

end LoxLexer
