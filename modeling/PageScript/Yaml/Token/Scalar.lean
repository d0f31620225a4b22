import PageScript.Text.Numeral
import PageScript.Yaml.Cursor

/-!
# Reading YAML scalars

The three ways to write a scalar: in a block under an indicator, in quotes, and plain. A scalar over
several lines is folded: a single break becomes a blank, and of several breaks the first is dropped. Each
reader answers the text of the scalar and the place behind it. A bound of one more than the characters
ahead is enough for each of them.
-/
namespace PageScript.Yaml

/-- The text that stands for a break and the breaks behind it, when lines are folded. -/
def fold (first others : List Char) : List Char :=
  if first.head? = some '\n' then (if others = [] then [' '] else others) else first ++ others

/-- Blanks and breaks between two words of a scalar. -/
structure Space where
  /-- The blanks, as long as there is no break. -/
  blanks : List Char := []
  /-- Whether there is a break, which may be an escaped one that stands for nothing. -/
  broken : Bool := false
  /-- The first break. -/
  first : List Char := []
  /-- The other breaks. -/
  others : List Char := []

namespace Space

def text (s : Space) : List Char := if s.broken then fold s.first s.others else s.blanks

/-- Reads a space. Behind a break, tabs may stand only from a column on. -/
def read (column : Nat) (s : Space) (c : Cursor) : Nat → Except Flaw (Space × Cursor)
  | 0 => .ok (s, c)
  | n + 1 =>
    match c.peek with
    | none => .ok (s, c)
    | some ch =>
      if isBlank ch then
        if s.broken then
          if c.column < column ∧ ch = '\t' then .error (.token c.line) else read column s (c.skip 1) n
        else read column { s with blanks := s.blanks ++ [ch] } (c.skip 1) n
      else if isBreak ch then
        let (mark, c) := c.readBreak
        if s.broken then read column { s with others := s.others ++ mark } c n
        else read column { s with broken := true, first := mark } c n
      else .ok (s, c)

end Space

/-! ## Plain scalars -/

/-- Characters at which a plain scalar ends inside brackets. -/
def isFlowMark (c : Char) : Bool := c == ',' || c == '[' || c == ']' || c == '{' || c == '}'

def plainWord (flow : Bool) (line : Nat) : List Char → Except Flaw (List Char)
  | [] => .ok []
  | c :: s =>
    if isBlank c || isBreak c then .ok []
    else if flow && c == ':' && s.head?.any fun d => isFlowMark d || d == '?' then .error (.token line)
    else if (c == ':' && isGap s.head?) || (flow && isFlowMark c) then .ok []
    else (plainWord flow line s).map (c :: ·)

/-- Reads a plain scalar behind some pieces, the latest of which comes first, and a space. Outside of brackets
it ends at a line that is less indented than `column`. The answer tells whether it ended behind a break. -/
def plainAt (flow : Bool) (column : Nat) (pieces : List (List Char)) (space : Space) (c : Cursor) :
    Nat → Except Flaw (List Char × Bool × Cursor)
  | 0 => .ok (pieces.reverse.flatten, space.broken, c)
  | n + 1 => do
    if c.seesDocumentMark || c.sees '#' then return (pieces.reverse.flatten, space.broken, c)
    let word ← plainWord flow c.line c.rest
    let (pieces, space) := if word = [] then (pieces, space) else (word :: space.text :: pieces, {})
    let c := c.skip word.length
    if !(c.peek.any fun ch => isBlank ch || isBreak ch) then
      return (pieces.reverse.flatten, space.broken, c)
    let (space, c) ← Space.read column space c n
    if !flow && c.column < column then return (pieces.reverse.flatten, space.broken, c)
    plainAt flow column pieces space c n

/-! ## Quoted scalars -/

def escaped? : Char → Option Char
  | '0' => some '\x00'
  | 'a' => some '\x07'
  | 'b' => some '\x08'
  | 't' => some '\t'
  | '\t' => some '\t'
  | 'n' => some '\n'
  | 'v' => some '\x0b'
  | 'f' => some '\x0c'
  | 'r' => some '\r'
  | 'e' => some '\x1b'
  | ' ' => some ' '
  | '"' => some '"'
  | '/' => some '/'
  | '\\' => some '\\'
  | 'N' => some '\u0085'
  | '_' => some '\u00a0'
  | 'L' => some '\u2028'
  | 'P' => some '\u2029'
  | _ => none

def escapeLength? : Char → Option Nat
  | 'x' => some 2
  | 'u' => some 4
  | 'U' => some 8
  | _ => none

def ofCode? (n : Nat) : Option Char :=
  if (0xD800 ≤ n ∧ n ≤ 0xDFFF) ∨ 0x10FFFF < n then none else some (Char.ofNat n)

def escapeAt (c : Cursor) : Except Flaw (Char × Cursor) :=
  match c.peek with
  | none => .error (.token c.line)
  | some e =>
    match escaped? e with
    | some ch => .ok (ch, c.skip 1)
    | none =>
      match escapeLength? e with
      | none => .error (.token c.line)
      | some n =>
        let digits := (c.skip 1).rest.take n
        match if digits.length = n then (Text.digits? 16 digits).bind ofCode? else none with
        | some ch => .ok (ch, c.skip (n + 1))
        | none => .error (.token c.line)

/-- Reads a word of a quoted scalar; the answer tells whether it ended with an escaped break. -/
def quotedWord (quote : Char) (c : Cursor) : Nat → Except Flaw (List Char × Bool × Cursor)
  | 0 => .ok ([], false, c)
  | n + 1 =>
    match c.peek with
    | none => .ok ([], false, c)
    | some ch =>
      if isBlank ch || isBreak ch then .ok ([], false, c)
      else if ch = quote then
        if quote = '\'' ∧ c.peekAt 1 = some '\'' then
          (quotedWord quote (c.skip 2) n).map fun p => ('\'' :: p.1, p.2)
        else .ok ([], false, c)
      else if quote = '"' ∧ ch = '\\' then
        if (c.peekAt 1).any isBreak then .ok ([], true, (c.skip 1).readBreak.2)
        else
          match escapeAt (c.skip 1) with
          | .ok (ch, c) => (quotedWord quote c n).map fun p => (ch :: p.1, p.2)
          | .error flaw => .error flaw
      else (quotedWord quote (c.skip 1) n).map fun p => (ch :: p.1, p.2)

/-- Reads a quoted scalar behind its opening quote and some pieces, the latest of which comes first. -/
def quotedAt (quote : Char) (pieces : List (List Char)) (c : Cursor) :
    Nat → Except Flaw (List Char × Cursor)
  | 0 => .error (.token c.line)
  | n + 1 => do
    if c.seesDocumentMark || c.peek.isNone then throw (.token c.line)
    let (word, broken, c) ← quotedWord quote c n
    if c.sees quote then return ((word :: pieces).reverse.flatten, c.skip 1)
    let (space, c) ← Space.read 0 { broken } c n
    quotedAt quote (space.text :: word :: pieces) c n

/-! ## Block scalars -/

/-- What becomes of the breaks at the end of a block scalar. -/
inductive Chomping where
  /-- None is kept. -/
  | strip
  /-- The first is kept. -/
  | clip
  | keep
  deriving DecidableEq, Repr

def chompingAt (c : Cursor) : Option Chomping × Cursor :=
  match c.peek with
  | some '+' => (some .keep, c.skip 1)
  | some '-' => (some .strip, c.skip 1)
  | _ => (none, c)

def incrementAt (c : Cursor) : Except Flaw (Option Nat × Cursor) :=
  match c.peek with
  | some d =>
    if d = '0' then .error (.token c.line)
    else if d.isDigit then .ok (some (d.toNat - '0'.toNat), c.skip 1)
    else .ok (none, c)
  | none => .ok (none, c)

/-- Reads the chomping and the indentation of a block scalar, each once at most and in any order. -/
def blockHeader (c : Cursor) : Except Flaw (Chomping × Option Nat × Cursor) := do
  match chompingAt c with
  | (some chomping, c) =>
    let (increment, c) ← incrementAt c
    return (chomping, increment, c)
  | (none, c) =>
    let (increment, c) ← incrementAt c
    if increment.isNone then return (.clip, none, c)
    let (chomping, c) := chompingAt c
    return (chomping.getD .clip, increment, c)

def skipComment (c : Cursor) : Cursor := if c.sees '#' then c.skipLine else c

def endLine (c : Cursor) : Except Flaw Cursor :=
  let c := skipComment (c.skipWhile isBlank)
  if isEnd c.peek then .ok c.readBreak.2 else .error (.token c.line)

/-- Reads the breaks before a line of a block scalar and goes to where the line starts: at the indentation,
or as far as there are spaces if that is not known yet. The answer has the breaks and the furthest column. -/
def blockBreaks (indent : Option Nat) (breaks : List Char) (furthest : Nat) (c : Cursor) :
    Nat → Except Flaw (List Char × Nat × Cursor)
  | 0 => .ok (breaks, furthest, c)
  | n + 1 =>
    let spaces := (c.rest.takeWhile (· == ' ')).length
    let c := c.skip (match indent with
      | none => spaces
      | some i => min spaces (i - c.column))
    let furthest := max furthest c.column
    if c.sees '\t' && indent.all (c.column < ·) then .error (.token c.line)
    else if c.peek.any isBreak then
      let (mark, c) := c.readBreak
      blockBreaks indent (breaks ++ mark) furthest c n
    else .ok (breaks, furthest, c)

/-- Reads the lines of a block scalar behind some pieces, the latest of which comes first. `first` and
`others` are the breaks before the next line, and `blank` tells whether the line before it started with a
blank. -/
def blockLines (folded : Bool) (indent : Nat) (pieces : List (List Char)) (first others : List Char)
    (blank : Bool) (c : Cursor) : Nat → Except Flaw (List Char × List Char × List Char × Cursor)
  | 0 => .ok (pieces.reverse.flatten, first, others, c)
  | n + 1 =>
    if c.column ≠ indent ∨ c.peek.isNone then .ok (pieces.reverse.flatten, first, others, c)
    else do
      let startsBlank := c.peek.any isBlank
      let joined :=
        if folded && first.head? == some '\n' && !blank && !startsBlank then fold first others
        else first ++ others
      let (line, c) := c.read (!isBreak ·)
      let (first, c) := c.readBreak
      let (others, _, c) ← blockBreaks (some indent) [] 0 c n
      blockLines folded indent (line :: joined :: pieces) first others startsBlank c n

/-- Reads a block scalar behind its indicator. `parent` is the least column that is deeper than the block
around it. -/
def blockAt (folded : Bool) (parent : Nat) (c : Cursor) (bound : Nat) :
    Except Flaw (List Char × Cursor) := do
  let (chomping, increment, c) ← blockHeader c
  let c ← endLine c
  let given := increment.map fun n => max 1 parent - 1 + n
  let (others, furthest, c) ← blockBreaks given [] 0 c bound
  let indent := given.getD (max 1 (max furthest parent))
  let (text, first, others, c) ← blockLines folded indent [] [] others false c bound
  match chomping with
  | .strip => return (text, c)
  | .clip => return (text ++ first, c)
  | .keep => return (text ++ first ++ others, c)

end PageScript.Yaml
