import LoxLexer.Program.Access
import LoxLexer.Program.Report

/-! # Running a script

A script is scanned as a whole.  Its tokens are printed and its failures shown
with their source lines; the first failure is the one that the run comes to.
-/

namespace LoxLexer
namespace Script

def unreadable (path : Text) (fault : AccessFault) : Failure :=
  .access ("Failed to read file '".toList ++ path ++ "': ".toList ++ fault.message)

/-- Run the script `path` with a given source text. -/
def runSource (path source : Text) : Attempt :=
  let result := (Session.new (some path)).run source
  { output := Token.rows result.tokens
    complaints := result.session.diagnostics (some source)
    failure? := result.session.failures.head? }

/-- Run the script `path`, given what reading it brought. -/
def run (path : Text) (content : Except AccessFault Bytes) : Attempt :=
  match content.bind Bytes.readText with
  | .ok source => runSource path source
  | .error fault => ⟨[], [], some (unreadable path fault)⟩

end Script
end LoxLexer
