import LoxLexer.Program.Access

/-! # Folders

A folder holds files and directories, which may be nested.  A path leads through
it name by name: a single dot and an empty name stay in place, two dots go back,
and nothing lies behind a file.  A long name leads nowhere, as does a long path.
-/

namespace LoxLexer

/-- The files of a folder with their contents, and its directories, all by their
paths. -/
structure Folder where
  files : List (Text × Bytes)
  directories : List Text
  deriving Repr

namespace Folder

inductive Place where
  /-- A directory around the folder. -/
  | outside
  /-- The directory at a row of names; without names, the folder itself. -/
  | directory (row : List Text)
  | file (content : Bytes)
  deriving Repr

/-- The longest name that can exist, in bytes of UTF-8. -/
def longestName : Nat :=
  255

/-- The longest path that can be followed, in bytes of UTF-8. -/
def longestPath : Nat :=
  4095

def byteCount (text : Text) : Nat :=
  (String.ofList text).utf8ByteSize

/-- The names of a path, which slashes divide. -/
def names (path : Text) : List Text :=
  path.splitOn '/'

/-- What stands at a row of names.  Whatever another path leads through is a
directory. -/
def place? (folder : Folder) (row : List Text) : Option Place :=
  match folder.files.find? fun entry => names entry.1 == row with
  | some entry => some (.file entry.2)
  | none =>
      if (folder.directories ++ folder.files.map Prod.fst).any
          fun path => row.isPrefixOf (names path) then
        some (.directory row)
      else none

def enter (folder : Folder) (place : Place) (name : Text) :
    Except AccessFault Place :=
  match place with
  | .file _ => .error .notDirectory
  | .outside =>
      if name = [] ∨ name = ['.'] ∨ name = ['.', '.'] then .ok .outside
      else if longestName < byteCount name then .error .nameTooLong
      else .error .missing
  | .directory row =>
      if name = [] ∨ name = ['.'] then .ok place
      else if name = ['.', '.'] then
        .ok (if row = [] then .outside else .directory row.dropLast)
      else if longestName < byteCount name then .error .nameTooLong
      else
        match folder.place? (row ++ [name]) with
        | some next => .ok next
        | none => .error .missing

/-- Follow a path.  It starts in the folder, or outside where a slash stands in
front. -/
def follow (folder : Folder) (path : Text) : Except AccessFault Place :=
  match path with
  | [] => .error .missing
  | first :: _ =>
      if longestPath < byteCount path then .error .nameTooLong
      else
        (names path).foldlM folder.enter
          (if first = '/' then .outside else .directory [])

/-- The bytes of the file that a path leads to. -/
def read (folder : Folder) (path : Text) : Except AccessFault Bytes :=
  match folder.follow path with
  | .ok (.file content) => .ok content
  | .ok _ => .error .isDirectory
  | .error fault => .error fault

end Folder
end LoxLexer
