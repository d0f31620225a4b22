/-!
# Cursors in YAML texts

The characters that may occur in a YAML text, the places where its lines break, and a cursor that walks
through it and knows where it is. A carriage return with a line feed behind it is one break; every break
but the line and paragraph separators is read as a line feed.
-/
namespace PageScript.Yaml

inductive Flaw where
  /-- A character that must not occur. -/
  | character
  /-- Something that is no token, in a line counted from 0. -/
  | token (line : Nat)
  /-- Tokens that do not fit together. -/
  | grammar
  /-- An alias without an anchor. -/
  | unknownAnchor (name : String)
  /-- More than one document. -/
  | documents
  /-- Collections within collections beyond the limit. -/
  | depth
  /-- More uses of aliases than the size of the text allows. -/
  | repetition
  /-- A value that is not of the kind that is asked for. -/
  | kind (expected : String)
  deriving DecidableEq, Repr

def Flaw.message : Flaw → String
  | character => "control characters are not allowed"
  | token line => s!"found an unexpected token at line {line + 1}"
  | grammar => "did not find expected node content"
  | unknownAnchor name => s!"unknown anchor {name}"
  | documents => "deserializing from YAML containing more than one document is not supported"
  | depth => "recursion limit exceeded"
  | repetition => "repetition limit exceeded"
  | kind expected => s!"invalid value, expected {expected}"

/-- Characters that may occur in a text. -/
def isAllowed (c : Char) : Bool :=
  let n := c.toNat
  n == 0x9 || n == 0xA || n == 0xD || (0x20 ≤ n && n ≤ 0x7E) || n == 0x85 || (0xA0 ≤ n && n ≤ 0xD7FF) ||
    (0xE000 ≤ n && n ≤ 0xFFFD) || 0x10000 ≤ n

def isBlank (c : Char) : Bool := c == ' ' || c == '\t'

/-- Characters at which a line breaks. -/
def isBreak (c : Char) : Bool :=
  c == '\r' || c == '\n' || c == '\u0085' || c == '\u2028' || c == '\u2029'

/-- A blank, a break or the end of the text. -/
def isGap : Option Char → Bool
  | none => true
  | some c => isBlank c || isBreak c

def isEnd : Option Char → Bool
  | none => true
  | some c => isBreak c

def isWordChar (c : Char) : Bool := c.isAlphanum || c == '_' || c == '-'

def byteSize (s : List Char) : Nat := s.foldl (fun n c => n + c.utf8Size) 0

/-- A place in a text: what is ahead, and how many bytes, lines and characters of the line are behind. -/
structure Cursor where
  rest : List Char
  index : Nat := 0
  line : Nat := 0
  column : Nat := 0
  deriving Repr, Inhabited

namespace Cursor

variable (c : Cursor)

def peek : Option Char := c.rest.head?

def peekAt (n : Nat) : Option Char := c.rest[n]?

def sees (ch : Char) : Bool := c.peek == some ch

/-- Goes past characters that are no breaks. -/
def skip (n : Nat) : Cursor :=
  { c with
    rest := c.rest.drop n
    index := c.index + byteSize (c.rest.take n)
    column := c.column + n }

/-- Reads characters while they satisfy `p`, which holds of no break. -/
def read (p : Char → Bool) : List Char × Cursor :=
  let text := c.rest.takeWhile p
  (text, c.skip text.length)

/-- Goes past characters while they satisfy `p`, which holds of no break. -/
def skipWhile (p : Char → Bool) : Cursor := (c.read p).2

def skipLine : Cursor := c.skipWhile (!isBreak ·)

/-- The start of the next line behind a break of some characters. -/
def newLine (n : Nat) : Cursor :=
  { rest := c.rest.drop n
    index := c.index + byteSize (c.rest.take n)
    line := c.line + 1
    column := 0 }

def readBreak : List Char × Cursor :=
  match c.rest with
  | '\r' :: '\n' :: _ => (['\n'], c.newLine 2)
  | ch :: _ =>
    if ch == '\u2028' || ch == '\u2029' then ([ch], c.newLine 1)
    else if isBreak ch then (['\n'], c.newLine 1)
    else ([], c)
  | [] => ([], c)

/-- Whether the line starts here with three equal marks and a gap behind them. -/
def seesMark (mark : Char) : Bool :=
  c.column == 0 && c.sees mark && c.peekAt 1 == some mark && c.peekAt 2 == some mark && isGap (c.peekAt 3)

/-- Whether a document starts or ends here. -/
def seesDocumentMark : Bool := c.seesMark '-' || c.seesMark '.'

end Cursor

end PageScript.Yaml
