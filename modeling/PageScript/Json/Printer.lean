import PageScript.Json

/-!
# Printing JSON

A value over several lines: each element and each field on a line of its own, two blanks deeper than the
brackets around it; empty brackets stay together. In a string only quotes, backslashes and control
characters are escaped.
-/
namespace PageScript.Json

/-- The digits of a code below 256, in lower case. -/
def hexPair (n : Nat) : List Char := [Nat.digitChar (n / 16 % 16), Nat.digitChar (n % 16)]

def escape (c : Char) : List Char :=
  if c = '"' then ['\\', '"']
  else if c = '\\' then ['\\', '\\']
  else if c = '\x08' then ['\\', 'b']
  else if c = '\x0c' then ['\\', 'f']
  else if c = '\n' then ['\\', 'n']
  else if c = '\r' then ['\\', 'r']
  else if c = '\t' then ['\\', 't']
  else if c.toNat < 0x20 then ['\\', 'u', '0', '0'] ++ hexPair c.toNat
  else [c]

def quote (s : String) : String := String.ofList ('"' :: s.toList.flatMap escape ++ ['"'])

/-- The written form of a string; one that is no text has none of its own. -/
def quote? (s : Option String) : String := quote (s.getD "")

def indent (depth : Nat) : String := "".pushn ' ' (2 * depth)

/-- Lines of one depth, with commas between them, inside brackets. -/
def bracketed (opening closing : String) (depth : Nat) (items : List String) : String :=
  if items.isEmpty then opening ++ closing
  else
    opening ++ "\n" ++ ",\n".intercalate (items.map (indent (depth + 1) ++ ·)) ++ "\n" ++ indent depth ++
      closing

mutual

def pretty (depth : Nat) : Json → String
  | null => "null"
  | bool b => if b then "true" else "false"
  | number numeral => numeral
  | string text => quote? text
  | array values => bracketed "[" "]" depth (prettyAll (depth + 1) values)
  | object fields => bracketed "\x7b" "\x7d" depth (prettyFields (depth + 1) fields)

def prettyAll (depth : Nat) : List Json → List String
  | [] => []
  | value :: values => value.pretty depth :: prettyAll depth values

def prettyFields (depth : Nat) : List (Option String × Json) → List String
  | [] => []
  | (key, value) :: fields => (quote? key ++ ": " ++ value.pretty depth) :: prettyFields depth fields

end

mutual

/-- The written form of a value on one line and without blanks. -/
def compact : Json → String
  | null => "null"
  | bool b => if b then "true" else "false"
  | number numeral => numeral
  | string text => quote? text
  | array values => "[" ++ ",".intercalate (compactAll values) ++ "]"
  | object fields => "\x7b" ++ ",".intercalate (compactFields fields) ++ "\x7d"

def compactAll : List Json → List String
  | [] => []
  | value :: values => value.compact :: compactAll values

def compactFields : List (Option String × Json) → List String
  | [] => []
  | (key, value) :: fields => (quote? key ++ ":" ++ value.compact) :: compactFields fields

end

end PageScript.Json
