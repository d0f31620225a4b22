import PageScript.Json
import PageScript.Text.Numeral

/-!
# Reading JSON

The strict form: four kinds of blanks, no comments, no comma behind the last element, no leading zeros, no
control characters in strings. Each reader takes the characters at hand and answers what it has read and
what is left, or none if they are not well written.
-/
namespace PageScript.Json

def isBlank (c : Char) : Bool := c == ' ' || c == '\t' || c == '\n' || c == '\r'

def skipBlanks (s : List Char) : List Char := s.dropWhile isBlank

def code? (a b c d : Char) : Option Nat := Text.digits? 16 [a, b, c, d]

/-- Codes that stand for the first half of a character. -/
def isFirstHalf (n : Nat) : Bool := 0xD800 ≤ n && n < 0xDC00

/-- Codes that stand for the second half of a character. -/
def isSecondHalf (n : Nat) : Bool := 0xDC00 ≤ n && n < 0xE000

/-- The character of two halves. -/
def joinHalves (first second : Nat) : Char :=
  Char.ofNat (0x10000 + (first - 0xD800) * 0x400 + (second - 0xDC00))

def escaped? : Char → Option Char
  | '"' => some '"'
  | '\\' => some '\\'
  | '/' => some '/'
  | 'b' => some '\x08'
  | 'f' => some '\x0c'
  | 'n' => some '\n'
  | 'r' => some '\r'
  | 't' => some '\t'
  | _ => none

/-- What stands in a string: a character, or a code that stands for half a one. -/
inductive Piece where
  | char (c : Char)
  | half (code : Nat)
  deriving DecidableEq, Repr

/-- Puts the halves of characters together, if each has its other half. -/
def join? : List Piece → Option (List Char)
  | [] => some []
  | .char c :: pieces => (join? pieces).map (c :: ·)
  | .half first :: .half second :: pieces =>
    if isFirstHalf first && isSecondHalf second then (join? pieces).map (joinHalves first second :: ·)
    else none
  | .half _ :: _ => none

/-- Reads a string behind its opening quote. -/
def piecesAt : List Char → Option (List Piece × List Char)
  | [] => none
  | '"' :: s => some ([], s)
  | '\\' :: 'u' :: a :: b :: c :: d :: s =>
    match code? a b c d with
    | none => none
    | some code =>
      let piece := if isFirstHalf code || isSecondHalf code then .half code else .char (Char.ofNat code)
      (piecesAt s).map fun p => (piece :: p.1, p.2)
  | '\\' :: e :: s =>
    match escaped? e with
    | none => none
    | some c => (piecesAt s).map fun p => (.char c :: p.1, p.2)
  | c :: s => if c.toNat < 0x20 then none else (piecesAt s).map fun p => (.char c :: p.1, p.2)

/-- Reads a string behind its opening quote. The string is none if it is no text. -/
def stringAt (s : List Char) : Option (Option String × List Char) :=
  (piecesAt s).map fun p => ((join? p.1).map String.ofList, p.2)

def digitsAt (s : List Char) : Option (List Char × List Char) :=
  match s.takeWhile Char.isDigit with
  | [] => none
  | digits => some (digits, s.dropWhile Char.isDigit)

/-- The digits before the point, of which the first of several is no zero. -/
def wholeAt : List Char → Option (List Char × List Char)
  | '0' :: s => some (['0'], s)
  | s => digitsAt s

def fractionAt : List Char → Option (List Char × List Char)
  | '.' :: s => (digitsAt s).map fun (digits, s) => ('.' :: digits, s)
  | s => some ([], s)

def exponentAt : List Char → Option (List Char × List Char)
  | e :: s =>
    if e = 'e' ∨ e = 'E' then
      let (sign, s) := match s with
        | '+' :: s => (['+'], s)
        | '-' :: s => (['-'], s)
        | s => ([], s)
      (digitsAt s).map fun (digits, s) => (e :: sign ++ digits, s)
    else some ([], e :: s)
  | [] => some ([], [])

def numeralAt (s : List Char) : Option (List Char × List Char) := do
  let (sign, s) := match s with
    | '-' :: s => (['-'], s)
    | s => ([], s)
  let (whole, s) ← wholeAt s
  let (fraction, s) ← fractionAt s
  let (exponent, s) ← exponentAt s
  return (sign ++ whole ++ fraction ++ exponent, s)

mutual

/-- Reads a value. The number bounds the depth of the reading. -/
def valueAt : Nat → List Char → Option (Json × List Char)
  | 0, _ => none
  | n + 1, s =>
    match skipBlanks s with
    | '"' :: s => (stringAt s).map fun p => (.string p.1, p.2)
    | '[' :: s =>
      match skipBlanks s with
      | ']' :: s => some (.array [], s)
      | s => (valuesAt n s).map fun p => (.array p.1, p.2)
    | '\x7b' :: s =>
      match skipBlanks s with
      | '\x7d' :: s => some (.object [], s)
      | s => (fieldsAt n s).map fun p => (.object p.1, p.2)
    | 't' :: 'r' :: 'u' :: 'e' :: s => some (.bool true, s)
    | 'f' :: 'a' :: 'l' :: 's' :: 'e' :: s => some (.bool false, s)
    | 'n' :: 'u' :: 'l' :: 'l' :: s => some (.null, s)
    | s => (numeralAt s).map fun p => (.number (String.ofList p.1), p.2)

def valuesAt : Nat → List Char → Option (List Json × List Char)
  | 0, _ => none
  | n + 1, s =>
    match valueAt n s with
    | none => none
    | some (value, s) =>
      match skipBlanks s with
      | ',' :: s => (valuesAt n s).map fun p => (value :: p.1, p.2)
      | ']' :: s => some ([value], s)
      | _ => none

def fieldsAt : Nat → List Char → Option (List (Option String × Json) × List Char)
  | 0, _ => none
  | n + 1, s =>
    match skipBlanks s with
    | '"' :: s =>
      match stringAt s with
      | none => none
      | some (key, s) =>
        match skipBlanks s with
        | ':' :: s =>
          match valueAt n s with
          | none => none
          | some (value, s) =>
            let field := (key, value)
            match skipBlanks s with
            | ',' :: s => (fieldsAt n s).map fun p => (field :: p.1, p.2)
            | '\x7d' :: s => some ([field], s)
            | _ => none
        | _ => none
    | _ => none

end

/-- Reads a text that is one value with blanks around it. Of every two readers inside one another one takes
a character, so the length bounds the depth. -/
def parse? (text : String) : Option Json :=
  let s := text.toList
  match valueAt (2 * s.length + 2) s with
  | some (value, rest) => if skipBlanks rest = [] then some value else none
  | none => none

end PageScript.Json
