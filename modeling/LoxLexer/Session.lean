import LoxLexer.Diagnostic
import LoxLexer.Record
import LoxLexer.Scanner

/-! # Sessions

A session runs one source text after another and keeps their lexical failures
until it is cleared.  Nothing else of a run is kept, so every run scans its text
from the first line.
-/

namespace LoxLexer

/-- The failures recorded since the last clearing, and the file that they are
located in. -/
structure Session where
  filename? : Option Text
  failures : List Failure
  deriving DecidableEq, Repr

/-- What running a source text gives: the session after it, the tokens, and the
log of the run. -/
structure Run where
  session : Session
  tokens : List Token
  records : List Record
  deriving DecidableEq, Repr

namespace Session

def new (filename? : Option Text) : Session :=
  ⟨filename?, []⟩

/-- The failure that a session records for a fault. -/
def failureOf (session : Session) (located : LocatedFault) : Failure :=
  .lexical located.fault.message ⟨located.line, session.filename?⟩

def run (session : Session) (source : Text) : Run :=
  let result := scan source
  let failures := session.failures ++ result.faults.map session.failureOf
  { session := { session with failures := failures }
    tokens := result.tokens
    records :=
      result.events.map Record.ofEvent ++
        [Record.ofScan source.length result,
          Record.ofRun result.tokens.length failures.length] }

def clear (session : Session) : Session :=
  { session with failures := [] }

/-- Whether a failure has been recorded since the last clearing. -/
def hasFailed (session : Session) : Bool :=
  !session.failures.isEmpty

/-- The diagnostics of the recorded failures, one after the other. -/
def diagnostics (session : Session) (source? : Option Text) : List Span :=
  session.failures.flatMap (Failure.diagnostic source?)

end Session

/-! ## Steps of a session -/

inductive Step where
  | run (source : Text)
  | clear
  | diagnose (source? : Option Text) (coloured : Bool)
  deriving DecidableEq, Repr

inductive Reply where
  | ran (tokens : List Token) (records : List Record)
  | cleared
  | diagnosed (texts : List Text)
  deriving DecidableEq, Repr

namespace Session

def perform (session : Session) : Step → Session × Reply
  | .run source =>
      let result := session.run source
      (result.session, .ran result.tokens result.records)
  | .clear => (session.clear, .cleared)
  | .diagnose source? coloured =>
      (session, .diagnosed (session.failures.map fun failure =>
        Span.renderAll coloured (failure.diagnostic source?)))

/-- Take steps in order: after each of them the session, and the answer. -/
def history (session : Session) : List Step → List (Session × Reply)
  | [] => []
  | step :: rest =>
      let result := session.perform step
      result :: history result.1 rest

end Session
end LoxLexer
