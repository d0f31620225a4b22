import PageScript.Text.Blank

/-!
# Paths

Paths as text, with `/` between their pieces. Joining and taking the parent only cut and paste; nothing is
looked up, and no piece is resolved.
-/
namespace PageScript.Path

def isAbsolute (path : String) : Bool := path.toList.head? == some '/'

/-- A path seen from a directory. An absolute path stands alone. -/
def join (base path : String) : String :=
  if isAbsolute path then path
  else
    match base.toList.getLast? with
    | none => path
    | some c => if c = '/' then base ++ path else base ++ "/" ++ path

def pieces (path : String) : List String :=
  (Text.splitWhere (· = '/') path.toList).map String.ofList

/-- Pieces that do not move: an empty one, and the directory itself. -/
def isIdle (piece : String) : Bool := piece == "" || piece == "."

def dropIdle (pieces : List String) : List String := (pieces.reverse.dropWhile isIdle).reverse

/-- What a path starts from, and the pieces from there: the root, the directory itself where it is written
out, or nothing. -/
def start (path : String) : String × List String :=
  match pieces path with
  | "" :: second :: rest => ("/", second :: rest)
  | "." :: rest => (".", rest)
  | pieces => ("", pieces)

def rebuild (start : String) (pieces : List String) : String :=
  if start = "." then "/".intercalate (start :: pieces) else start ++ "/".intercalate pieces

/-- The path without its last piece. There is none for the root and for a path without pieces. -/
def parent? (path : String) : Option String :=
  let (start, pieces) := start path
  match dropIdle pieces with
  | [] => if start = "." then some "" else none
  | moving => some (rebuild start (dropIdle moving.dropLast))

end PageScript.Path
