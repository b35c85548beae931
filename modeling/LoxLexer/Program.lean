import LoxLexer.Program.Colour
import LoxLexer.Program.Folder
import LoxLexer.Program.Prompt
import LoxLexer.Program.Script

/-! # The program

Without arguments the program is a prompt on its standard input, with one it
scans the script of that name, and with more it is used wrongly.
-/

namespace LoxLexer
namespace Program

/-- What the arguments ask for. -/
inductive Mode where
  | prompt
  | script (path : Text)
  deriving DecidableEq, Repr

/-- The failure of a command line with too many arguments. -/
def misuse : Failure :=
  .usage "Usage: loxbagel [script]".toList

def mode (arguments : List Text) : Except Failure Mode :=
  match arguments with
  | [] => .ok .prompt
  | [path] => .ok (.script path)
  | _ => .error misuse

/-- Follow a command line, where `read` gives the bytes of a file. -/
def attempt (arguments : List Text)
    (read : Text → Except AccessFault Bytes) (input : Bytes) : Attempt :=
  match mode arguments with
  | .ok .prompt => Prompt.run input
  | .ok (.script path) => Script.run path (read path)
  | .error failure => ⟨[], [], some failure⟩

/-- What a command line comes to, its complaints in colour or without. -/
def outcome (arguments : List Text) (read : Text → Except AccessFault Bytes)
    (input : Bytes) (coloured : Bool) : Outcome :=
  (attempt arguments read input).report.outcome coloured

/-- Run the program in a folder, its output going to no terminal. -/
def run (arguments : List Text) (folder : Folder) (input : Bytes)
    (settings : ColourSettings) : Outcome :=
  outcome arguments folder.read input (settings.coloured false)

end Program
end LoxLexer
