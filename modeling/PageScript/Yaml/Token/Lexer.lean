import PageScript.Yaml.Token
import PageScript.Yaml.Token.Scalar

/-!
# Reading YAML tokens

Reads the tokens of a text one after another. Outside of brackets the indentation of a line opens and closes
blocks. A key need not be marked as one: when a `:` is found, the token before which a key could have
started is looked up, and the marks of the key and of its mapping are put in there. Such a key has to stand
on one line and within 1024 bytes, and where a line has to start with a key it must turn out to be one.
-/
namespace PageScript.Yaml

/-- A place at which a key may have started. -/
structure PossibleKey where
  /-- How many tokens there were. -/
  position : Nat
  /-- Whether nothing but a key may stand there. -/
  required : Bool
  index : Nat
  line : Nat
  column : Nat
  deriving DecidableEq, Repr

structure Lexer where
  cursor : Cursor
  /-- The tokens so far, the latest first, and how many there are. -/
  tokens : List Token := []
  count : Nat := 0
  /-- How many brackets are open. -/
  flow : Nat := 0
  /-- The columns of the open blocks, the innermost first. -/
  indents : List Nat := []
  /-- Whether a key may start here. -/
  keyAllowed : Bool := true
  /-- Where the latest key may have started, outside of brackets and in each of the open ones, the innermost
  first. -/
  keys : List (Option PossibleKey) := [none]
  deriving Repr

namespace Lexer

variable (l : Lexer)

/-- The least column that is deeper than the innermost block. -/
def depth : Nat :=
  match l.indents with
  | [] => 0
  | column :: _ => column + 1

def refuse {α : Type} : Except Flaw α := .error (.token l.cursor.line)

def emit (t : Token) : Lexer := { l with tokens := t :: l.tokens, count := l.count + 1 }

/-- Puts a token in so that some number of tokens stand before it. -/
def insert (position : Nat) (t : Token) : Lexer :=
  let behind := l.count - position
  { l with tokens := l.tokens.take behind ++ t :: l.tokens.drop behind, count := l.count + 1 }

/-- Goes past some characters, which are a token. -/
def emitMark (t : Token) (n : Nat) : Lexer := { l with cursor := l.cursor.skip n }.emit t

def possibleKey : Option PossibleKey := l.keys.head?.join

def setKey (k : Option PossibleKey) : Lexer := { l with keys := k :: l.keys.tail }

/-- Gives up the possible key, unless there has to be one. -/
def dropKey : Except Flaw Lexer :=
  if l.possibleKey.any PossibleKey.required then l.refuse else .ok (l.setKey none)

def saveKey : Except Flaw Lexer :=
  if l.keyAllowed then do
    let c := l.cursor
    let required := l.flow == 0 && l.indents.head? == some c.column
    return (← l.dropKey).setKey (some ⟨l.count, required, c.index, c.line, c.column⟩)
  else .ok l

def keyLength : Nat := 1024

/-- Whether a key that started at a place can no longer end here. -/
def isStale (k : PossibleKey) : Bool :=
  k.line < l.cursor.line || k.index + keyLength < l.cursor.index

def dropStale : Except Flaw Lexer :=
  let stale := l.keys.filterMap (Option.filter l.isStale)
  if stale.isEmpty then .ok l
  else if stale.any PossibleKey.required then l.refuse
  else .ok { l with keys := l.keys.map (Option.filter (!l.isStale ·)) }

/-- Opens a block if the column is deeper than the innermost one, with its mark before the token at a
position. -/
def openBlock (column position : Nat) (mark : Token) : Lexer :=
  if l.flow == 0 && l.depth ≤ column then
    { l with indents := column :: l.indents }.insert position mark
  else l

def openHere (mark : Token) : Lexer := l.openBlock l.cursor.column l.count mark

/-- Closes the blocks that are deeper than a column; none stands for the column before the first. -/
def closeBlocks (column : Option Nat) : Lexer :=
  if l.flow == 0 then
    let deeper := (l.indents.takeWhile fun indent => column.all (· < indent)).length
    { l with
      indents := l.indents.drop deeper
      tokens := List.replicate deeper Token.blockEnd ++ l.tokens
      count := l.count + deeper }
  else l

/-- Goes past blanks, comments and breaks. Tabs count as blanks where no key may start. -/
def toNextToken (l : Lexer) : Nat → Lexer
  | 0 => l
  | n + 1 =>
    let c := if l.cursor.column == 0 && l.cursor.sees '\ufeff' then l.cursor.skip 1 else l.cursor
    let tabs := l.flow != 0 || !l.keyAllowed
    let c := skipComment (c.skipWhile fun ch => ch == ' ' || (tabs && ch == '\t'))
    if c.peek.any isBreak then
      toNextToken
        { l with cursor := c.readBreak.2, keyAllowed := l.keyAllowed || l.flow == 0 } n
    else { l with cursor := c }

/-! ## Directives, anchors and tags -/

def isTagChar (verbatim : Bool) (c : Char) : Bool :=
  isWordChar c || ";/?:@&=+$.%!~*'()".toList.contains c || (verbatim && (c == ',' || c == '[' || c == ']'))

/-- The bytes of the escapes at the start of a text, as many as the first of them calls for. -/
def escapedBytes (s : List Char) : Nat → Option (List Nat)
  | 0 => some []
  | n + 1 =>
    match s with
    | '%' :: a :: b :: s => do
      let byte ← Text.digits? 16 [a, b]
      guard (byte / 64 = 2)
      return byte :: (← escapedBytes s n)
    | _ => none

/-- How many bytes a character has that starts with a byte. -/
def byteCount? (byte : Nat) : Option Nat :=
  if byte < 0x80 then some 1
  else if byte / 32 = 6 then some 2
  else if byte / 16 = 14 then some 3
  else if byte / 8 = 30 then some 4
  else none

/-- Reads an escaped character of a tag, none if its bytes are no character; the answer has its length in the
text. -/
def tagEscapeAt (s : List Char) : Option (Option Char × Nat) :=
  match s with
  | '%' :: a :: b :: rest => do
    let first ← Text.digits? 16 [a, b]
    let count ← byteCount? first
    let others ← escapedBytes rest (count - 1)
    let bytes := ByteArray.mk ((first :: others).map (·.toUInt8)).toArray
    return ((String.fromUTF8? bytes).bind (·.toList.head?), 3 * count)
  | _ => none

def tagText (verbatim : Bool) (c : Cursor) : Nat → Except Flaw (List (Option Char) × Cursor)
  | 0 => .ok ([], c)
  | n + 1 =>
    match c.peek with
    | none => .ok ([], c)
    | some ch =>
      if ch = '%' then
        match tagEscapeAt c.rest with
        | some (ch, length) => (tagText verbatim (c.skip length) n).map fun p => (ch :: p.1, p.2)
        | none => .error (.token c.line)
      else if isTagChar verbatim ch then
        (tagText verbatim (c.skip 1) n).map fun p => (some ch :: p.1, p.2)
      else .ok ([], c)

/-- Reads the characters of a tag behind some that are known; there has to be at least one. -/
def tagTextAfter (known : List Char) (verbatim : Bool) (c : Cursor) : Except Flaw (Tag × Cursor) := do
  let (text, rest) ← tagText verbatim c c.rest.length
  if known = [] ∧ rest.index = c.index then throw (.token c.line)
  return (.ofChars ((known.drop 1).map some ++ text), rest)

/-- Reads the handle of a tag: a mark, word characters, and a mark if there is one. -/
def tagHandle (c : Cursor) : Except Flaw (List Char × Cursor) :=
  if c.sees '!' then
    let (word, c) := (c.skip 1).read isWordChar
    if c.sees '!' then .ok ('!' :: word ++ ['!'], c.skip 1) else .ok ('!' :: word, c)
  else .error (.token c.line)

/-- Whether a handle has a mark at both ends. -/
def isClosed (handle : List Char) : Bool := 1 < handle.length && handle.getLast? == some '!'

def shortTag (c : Cursor) : Except Flaw (Token × Cursor) := do
  let (handle, c) ← tagHandle c
  if isClosed handle then
    let (suffix, c) ← tagTextAfter [] false c
    return (.tag (String.ofList handle) suffix, c)
  let (suffix, c) ← tagTextAfter handle false c
  return (if suffix.text = "" then .tag "" .mark else .tag "!" suffix, c)

def verbatimTag (c : Cursor) : Except Flaw (Token × Cursor) := do
  let (suffix, c) ← tagTextAfter [] true (c.skip 2)
  if c.sees '>' then return (.tag "" suffix, c.skip 1) else throw (.token c.line)

def fetchTag : Except Flaw Lexer := do
  let l := { (← l.saveKey) with keyAllowed := false }
  let (tag, c) ← if l.cursor.peekAt 1 = some '<' then verbatimTag l.cursor else shortTag l.cursor
  if isGap c.peek || (l.flow != 0 && c.sees ',') then return { l with cursor := c }.emit tag
  l.refuse

def fetchAnchor (token : String → Token) : Except Flaw Lexer := do
  let l := { (← l.saveKey) with keyAllowed := false }
  let (name, c) := (l.cursor.skip 1).read isWordChar
  if name ≠ [] ∧ (isGap c.peek ∨ c.peek.any "?:,]\x7d%@`".toList.contains) then
    return { l with cursor := c }.emit (token (String.ofList name))
  l.refuse

/-- Reads a number of at most nine digits. -/
def versionNumber (c : Cursor) : Except Flaw (Nat × Cursor) :=
  let (digits, rest) := c.read Char.isDigit
  match if digits.length ≤ 9 then Text.digits? 10 digits else none with
  | some n => .ok (n, rest)
  | none => .error (.token c.line)

def directiveAt (name : List Char) (c : Cursor) : Except Flaw (Token × Cursor) := do
  let c := c.skipWhile isBlank
  if name = ['Y', 'A', 'M', 'L'] then
    let (major, c) ← versionNumber c
    if !c.sees '.' then throw (.token c.line)
    let (minor, c) ← versionNumber (c.skip 1)
    return (.versionDirective major minor, c)
  else if name = ['T', 'A', 'G'] then
    let (handle, c) ← tagHandle c
    if !(isClosed handle || handle.length == 1) || !c.peek.any isBlank then throw (.token c.line)
    let (start, c) ← tagTextAfter [] true (c.skipWhile isBlank)
    if !isGap c.peek then throw (.token c.line)
    return (.tagDirective (String.ofList handle) start, c)
  else throw (.token c.line)

def fetchDirective : Except Flaw Lexer := do
  let l := { (← (l.closeBlocks none).dropKey) with keyAllowed := false }
  let (name, c) := (l.cursor.skip 1).read isWordChar
  if name = [] ∨ !isGap c.peek then l.refuse
  else
    let (token, c) ← directiveAt name c
    return { l with cursor := ← endLine c }.emit token

/-! ## The other tokens -/

def fetchDocumentMark (token : Token) : Except Flaw Lexer := do
  return { (← (l.closeBlocks none).dropKey) with keyAllowed := false }.emitMark token 3

def fetchFlowStart (token : Token) : Except Flaw Lexer := do
  let l ← l.saveKey
  return { l with keys := none :: l.keys, flow := l.flow + 1, keyAllowed := true }.emitMark token 1

def fetchFlowEnd (token : Token) : Except Flaw Lexer := do
  let l ← l.dropKey
  let l := if l.flow = 0 then l else { l with keys := l.keys.tail, flow := l.flow - 1 }
  return { l with keyAllowed := false }.emitMark token 1

def fetchFlowEntry : Except Flaw Lexer := do
  return { (← l.dropKey) with keyAllowed := true }.emitMark .flowEntry 1

/-- Opens a block for an indicator that may stand only where a key may start. -/
def openFor (mark : Token) : Except Flaw Lexer :=
  if l.flow == 0 then (if l.keyAllowed then .ok (l.openHere mark) else l.refuse) else .ok l

def fetchBlockEntry : Except Flaw Lexer := do
  let l ← (← l.openFor .blockSequenceStart).dropKey
  return { l with keyAllowed := true }.emitMark .blockEntry 1

def fetchKey : Except Flaw Lexer := do
  let l ← (← l.openFor .blockMappingStart).dropKey
  return { l with keyAllowed := l.flow == 0 }.emitMark .key 1

def fetchValue : Except Flaw Lexer := do
  match l.possibleKey with
  | some k =>
    let l := (l.insert k.position .key).openBlock k.column k.position .blockMappingStart
    return { l.setKey none with keyAllowed := false }.emitMark .value 1
  | none =>
    let l ← l.openFor .blockMappingStart
    return { l with keyAllowed := l.flow == 0 }.emitMark .value 1

def fetchBlockScalar (folded : Bool) (bound : Nat) : Except Flaw Lexer := do
  let l := { (← l.dropKey) with keyAllowed := true }
  let (text, c) ← blockAt folded l.depth (l.cursor.skip 1) bound
  return { l with cursor := c }.emit (.scalar (if folded then .folded else .literal) (String.ofList text))

def fetchQuoted (quote : Char) (bound : Nat) : Except Flaw Lexer := do
  let l := { (← l.saveKey) with keyAllowed := false }
  let (text, c) ← quotedAt quote [] (l.cursor.skip 1) bound
  return { l with cursor := c }.emit (.scalar .quoted (String.ofList text))

def fetchPlain (bound : Nat) : Except Flaw Lexer := do
  let l := { (← l.saveKey) with keyAllowed := false }
  let (text, broken, c) ← plainAt (l.flow != 0) l.depth [] {} l.cursor bound
  return { l with cursor := c, keyAllowed := broken }.emit (.scalar .plain (String.ofList text))

/-- Whether a plain scalar may start with a character that has another one behind it. -/
def startsPlain (ch : Char) (next : Option Char) : Bool :=
  if ch == '-' then !next.any isBlank
  else if ch == '?' || ch == ':' then l.flow == 0 && !isGap next
  else !(isGap (some ch) || ",[]\x7b\x7d#&*!|>'\"%@`".toList.contains ch)

/-- Reads the token that starts with a character. The bound is more than the characters ahead. -/
def fetchAt (ch : Char) (bound : Nat) : Except Flaw Lexer :=
  let c := l.cursor
  let next := c.peekAt 1
  let indicates := l.flow != 0 || isGap next
  if c.column == 0 && ch == '%' then l.fetchDirective
  else if c.seesMark '-' then l.fetchDocumentMark .documentStart
  else if c.seesMark '.' then l.fetchDocumentMark .documentEnd
  else if ch == '[' then l.fetchFlowStart .flowSequenceStart
  else if ch == '{' then l.fetchFlowStart .flowMappingStart
  else if ch == ']' then l.fetchFlowEnd .flowSequenceEnd
  else if ch == '}' then l.fetchFlowEnd .flowMappingEnd
  else if ch == ',' then l.fetchFlowEntry
  else if ch == '-' && isGap next then l.fetchBlockEntry
  else if ch == '?' && indicates then l.fetchKey
  else if ch == ':' && indicates then l.fetchValue
  else if ch == '*' then l.fetchAnchor .reference
  else if ch == '&' then l.fetchAnchor .anchor
  else if ch == '!' then l.fetchTag
  else if ch == '|' && l.flow == 0 then l.fetchBlockScalar false bound
  else if ch == '>' && l.flow == 0 then l.fetchBlockScalar true bound
  else if ch == '\'' || ch == '"' then l.fetchQuoted ch bound
  else if l.startsPlain ch next then l.fetchPlain bound
  else l.refuse

def finish : Except Flaw Lexer := (l.closeBlocks none).dropKey

/-- Reads all tokens. Every token but the marks of blocks takes a character, so the length of the text bounds
their number. -/
def run (l : Lexer) : Nat → Except Flaw Lexer
  | 0 => l.finish
  | n + 1 => do
    let l ← (l.toNextToken (n + 1)).dropStale
    let l := l.closeBlocks (some l.cursor.column)
    match l.cursor.peek with
    | none => l.finish
    | some ch => run (← l.fetchAt ch (n + 1)) n

end Lexer

def Token.readAll (text : String) : Except Flaw (List Token) := do
  let s := text.toList
  if s.all isAllowed then
    let l ← Lexer.run { cursor := { rest := s } } (s.length + 1)
    return l.tokens.reverse
  else throw .character

end PageScript.Yaml
