import PageScript.Fault
import PageScript.Path

/-!
# Files

A directory with the files and directories below it, and reading a file by a path. A path is walked piece by
piece from the directory; what lies outside of it is not known to hold anything.
-/
namespace PageScript

inductive Entry where
  /-- A file with its text, none if its bytes are no text. -/
  | file (text : Option String)
  | directory
  deriving DecidableEq, Repr

/-- What is stored below a directory, by the pieces that lead to it. Directories on the way to a file need
not be listed. -/
abbrev Files := List (List String × Entry)

namespace Files

inductive Refusal where
  | missing
  | isDirectory
  | notDirectory
  | notText
  /-- The path or a piece of it is too long. -/
  | tooLong
  /-- The path has a zero character, which no path may have. -/
  | zeroCharacter
  deriving DecidableEq, Repr

/-- The words of the operating system, with its number. -/
def Refusal.message : Refusal → String
  | missing => "No such file or directory (os error 2)"
  | isDirectory => "Is a directory (os error 21)"
  | notDirectory => "Not a directory (os error 20)"
  | notText => "stream did not contain valid UTF-8"
  | tooLong => "File name too long (os error 36)"
  | zeroCharacter => "file name contained an unexpected NUL byte"

/-- How many bytes a piece of a path may have. -/
def pieceLength : Nat := 255

/-- How many bytes a path may have. -/
def pathLength : Nat := 4095

/-- The pieces of a path that move. -/
def place (path : String) : List String := (Path.pieces path).filter (!Path.isIdle ·)

/-- What is at a place: something listed, a directory on the way to something listed, or nothing. -/
def at? (files : Files) (place : List String) : Option Entry :=
  match files.lookup place with
  | some entry => some entry
  | none =>
    if place.isEmpty || files.any fun (p, _) => place.isPrefixOf p then some .directory else none

/-- Walks from a directory, none for one outside. Every piece but the last has to lead to a directory. -/
def walk (files : Files) : Option (List String) → List String → Except Refusal Entry
  | here, [] =>
    match here with
    | none => .ok .directory
    | some place => ((files.at? place).map Except.ok).getD (.error .missing)
  | here, piece :: pieces =>
    if Path.isIdle piece then walk files here pieces
    else if piece = ".." then
      walk files (here.bind fun place => if place.isEmpty then none else some place.dropLast) pieces
    else if pieceLength < piece.utf8ByteSize then .error .tooLong
    else
      match here with
      | none => .error .missing
      | some place =>
        match files.at? (place ++ [piece]) with
        | none => .error .missing
        | some .directory => walk files (some (place ++ [piece])) pieces
        | some (.file text) => if pieces.isEmpty then .ok (.file text) else .error .notDirectory

def contents (files : Files) (path : String) : Except Refusal String := do
  if path.toList.contains '\x00' then throw .zeroCharacter
  if path = "" then throw .missing
  if pathLength < path.utf8ByteSize then throw .tooLong
  match ← files.walk (if Path.isAbsolute path then none else some []) (Path.pieces path) with
  | .directory => throw .isDirectory
  | .file none => throw .notText
  | .file (some text) => return text

/-- Reads a file; a refusal is reported together with the path. -/
def read (files : Files) (path : String) : Except Fault String :=
  match files.contents path with
  | .ok text => .ok text
  | .error refusal => .error (.fileRead path refusal.message)

end Files

end PageScript
