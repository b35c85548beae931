import LoxLexer.Number.Decimal

/-! # Failures

What goes wrong in a run is recorded as a failure: its message, for a lexical
failure its place, and the exit status that it asks for.
-/

namespace LoxLexer

/-- A line of a source text, with the name of its file where it has one. -/
structure Location where
  line : Nat
  filename? : Option Text
  deriving DecidableEq, Repr

def Location.text (location : Location) : Text :=
  match location.filename? with
  | some filename => filename ++ ':' :: Decimal.digits location.line
  | none => "line ".toList ++ Decimal.digits location.line

inductive Failure where
  | lexical (message : Text) (location : Location)
  | access (message : Text)
  /-- The command line makes no sense. -/
  | usage (message : Text)
  deriving DecidableEq, Repr

namespace Failure

def heading : Failure → Text
  | lexical _ _ => "Lexer Error".toList
  | access _ => "I/O Error".toList
  | usage _ => "Usage Error".toList

def message : Failure → Text
  | lexical message _ => message
  | access message => message
  | usage message => message

/-- Where it went wrong; only lexical failures have a place. -/
def location? : Failure → Option Location
  | lexical _ location => some location
  | access _ => none
  | usage _ => none

def exitStatus : Failure → Nat
  | usage _ => 64
  | lexical _ _ => 65
  | access _ => 74

def text (failure : Failure) : Text :=
  failure.heading ++ ": ".toList ++ failure.message ++
    match failure.location? with
    | some location => " at ".toList ++ location.text
    | none => []

end Failure
end LoxLexer
