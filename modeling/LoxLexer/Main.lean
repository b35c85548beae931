import LoxLexer.Program

/-! # The command line

The outer layer: it reads files and lines, and writes what the program reports.
-/

namespace LoxLexer
namespace CommandLine

def setting? (name : String) : IO (Option Text) := do
  return (← IO.getEnv name).map String.toList

def chooseColour : IO Bool := do
  let settings : ColourSettings :=
    { noColour? := ← setting? "NO_COLOR"
      colour? := ← setting? "CLICOLOR"
      forceColour? := ← setting? "CLICOLOR_FORCE" }
  return settings.coloured (← (← IO.getStdout).isTty)

/-- The number that the system has for a fault.  Some calls report it
negated. -/
def systemNumber (code : UInt32) : UInt32 :=
  if code < 0x80000000 then code else 0 - code

/-- The fault that the system reports by number and in words. -/
def systemFault (code : UInt32) (reason : String) : AccessFault :=
  match (systemNumber code).toNat with
  | 2 => .missing
  | 20 => .notDirectory
  | 21 => .isDirectory
  | 36 => .nameTooLong
  | number => .other (reason ++ " (os error " ++ toString number ++ ")").toList

/-- The bytes of a file, or why they cannot be had. -/
def readBytes (path : String) : IO (Except AccessFault Bytes) := do
  try
    return .ok (← IO.FS.readBinFile path).toList
  catch
    | .noFileOrDirectory _ code reason => return .error (systemFault code reason)
    | .inappropriateType _ code reason => return .error (systemFault code reason)
    | .invalidArgument _ code reason => return .error (systemFault code reason)
    | .permissionDenied _ code reason => return .error (systemFault code reason)
    | fault => return .error (.other (toString fault).toList)

def deliver (coloured : Bool) (attempt : Attempt) : IO UInt32 := do
  let outcome := attempt.report.outcome coloured
  IO.print (String.ofList outcome.output)
  (← IO.getStdout).flush
  IO.eprint (String.ofList outcome.errorOutput)
  return UInt32.ofNat outcome.exitStatus

/-- The next line of input with its ending, after the bytes already collected in
reverse. -/
partial def readLine (input : IO.FS.Stream) (collected : Bytes) : IO Bytes := do
  match (← input.read 1).toList with
  | [] => return collected.reverse
  | byte :: _ =>
      if byte == 10 then return (byte :: collected).reverse
      else readLine input (byte :: collected)

/-- Answer lines of input until the prompt ends. -/
partial def converse (coloured : Bool) (input : IO.FS.Stream) (session : Session) :
    IO UInt32 := do
  IO.print (String.ofList Prompt.marker)
  (← IO.getStdout).flush
  match Prompt.respond session (← readLine input []) with
  | .finished => deliver coloured ⟨[], [], none⟩
  | .broken failure => deliver coloured ⟨[], [], some failure⟩
  | .answered next output complaints =>
      let _ ← deliver coloured ⟨output, complaints, none⟩
      converse coloured input next

end CommandLine
end LoxLexer

open LoxLexer in
def main (arguments : List String) : IO UInt32 := do
  let coloured ← CommandLine.chooseColour
  match Program.mode (arguments.map String.toList) with
  | .ok .prompt =>
      CommandLine.converse coloured (← IO.getStdin) (Session.new none)
  | .ok (.script path) =>
      let content ← CommandLine.readBytes (String.ofList path)
      CommandLine.deliver coloured (Script.run path content)
  | .error failure => CommandLine.deliver coloured ⟨[], [], some failure⟩
