import LoxLexer.Program.Access
import LoxLexer.Program.Report

/-! # The prompt

The prompt asks for a line, scans it, prints its tokens and shows its failures,
and asks again.  One session serves all lines and is cleared after each of them.
An empty line or the end of the input ends the prompt; a line that is not text
breaks it off.
-/

namespace LoxLexer
namespace Prompt

/-- What the prompt writes before it reads a line. -/
def marker : Text :=
  "> ".toList

def unreadable (fault : AccessFault) : Failure :=
  .access ("Error reading input: ".toList ++ fault.message)

inductive Response where
  | finished
  | broken (failure : Failure)
  /-- The line is answered, and the session is ready for the next one. -/
  | answered (next : Session) (output : Text) (complaints : List Span)
  deriving DecidableEq, Repr

/-- The response to a line of input, its ending included. -/
def respond (session : Session) (bytes : Bytes) : Response :=
  match Bytes.readText bytes with
  | .error fault => .broken (unreadable fault)
  | .ok line =>
      match Lines.trimmed line with
      | [] => .finished
      | first :: rest =>
          let source := first :: rest
          let result := session.run source
          .answered result.session.clear (Token.rows result.tokens)
            (result.session.diagnostics (some source))

/-- Run a prompt that is given lines of input. -/
def runLines (session : Session) : List Bytes → Attempt
  | [] => ⟨marker, [], none⟩
  | line :: rest =>
      match respond session line with
      | .finished => ⟨marker, [], none⟩
      | .broken failure => ⟨marker, [], some failure⟩
      | .answered next output complaints =>
          let later := runLines next rest
          ⟨marker ++ output ++ later.output, complaints ++ later.complaints,
            later.failure?⟩

/-- Run a prompt that is given bytes of input. -/
def run (input : Bytes) : Attempt :=
  runLines (Session.new none) (Bytes.lines input)

end Prompt
end LoxLexer
