import LoxLexer.Scan

/-! # Log records

A scan is told as a row of records: one for each event, in source order, and
summaries at the end.
-/

namespace LoxLexer

inductive Level where
  | trace
  | debug
  | warn
  deriving DecidableEq, Repr

def Level.name : Level → Text
  | trace => "TRACE".toList
  | debug => "DEBUG".toList
  | warn => "WARN".toList

structure Record where
  level : Level
  message : Text
  deriving DecidableEq, Repr

namespace Record

/-- What a record says of `line`. -/
def onLine (line : Nat) (remark : Text) : Text :=
  "line ".toList ++ Decimal.digits line ++ ": ".toList ++ remark

/-- The record of a token: its line, the name of its kind and its quoted lexeme. -/
def ofToken (token : Token) : Record where
  level := .trace
  message :=
    onLine token.line (token.kind.name ++ ' ' :: Escape.quoted token.lexeme)

/-- The record of a fault: its line and its message. -/
def ofFault (located : LocatedFault) : Record where
  level := .warn
  message := onLine located.line located.fault.message

def ofEvent : Event → Record
  | .token found => ofToken found
  | .fault located => ofFault located

/-- The summary of a scan of so many characters. -/
def ofScan (characters : Nat) (scan : Scan) : Record where
  level := .debug
  message :=
    "scanned ".toList ++ Decimal.digits characters ++
      " chars into ".toList ++ Decimal.digits scan.tokens.length ++
      " tokens over ".toList ++ Decimal.digits scan.lastLine ++
      " lines".toList

/-- The summary of a run: how many tokens it gave, and how many failures have
been recorded so far. -/
def ofRun (tokens failures : Nat) : Record where
  level := .debug
  message :=
    "run produced ".toList ++ Decimal.digits tokens ++
      " tokens, ".toList ++ Decimal.digits failures ++
      " errors so far".toList

end Record

/-- The records of a scan whose faults are not logged: one for each token, then
the summary. -/
def Scan.records (characters : Nat) (scan : Scan) : List Record :=
  (scan.events.filterMap Event.token?).map Record.ofToken ++
    [Record.ofScan characters scan]

end LoxLexer
