/-!
# JSON values

Values as they are written: a number keeps its digits, and the fields of an object their order and
repetitions. A string in a text may contain an escape that stands for half a character only; such a string
is well written but is no text.
-/
namespace PageScript

inductive Json where
  | null
  | bool (b : Bool)
  /-- A number as it is written. -/
  | number (numeral : String)
  /-- A string, none if it is no text. -/
  | string (text : Option String)
  | array (values : List Json)
  | object (fields : List (Option String × Json))
  deriving Repr, BEq, Inhabited

namespace Json

def ofString (s : String) : Json := string (some s)

def ofNat (n : Nat) : Json := number (toString n)

def ofStrings (ss : List String) : Json := array (ss.map ofString)

def ofFields (fields : List (String × Json)) : Json := object (fields.map fun f => (some f.1, f.2))

end Json

end PageScript
