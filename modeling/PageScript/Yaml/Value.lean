import PageScript.Yaml.Cursor
import PageScript.Yaml.Tag
import PageScript.Yaml.Token
import PageScript.Yaml.Value.Numeral

/-!
# YAML values

What a node says by itself, where nobody asks for a certain kind of value. A plain scalar is nothing, a truth
value or a number if it looks like one, and any other scalar is a text; a tag of the core schema settles the
kind.
-/
namespace PageScript.Yaml

inductive Value where
  | null
  | bool (b : Bool)
  /-- A whole number by its sign and size. -/
  | integer (negative : Bool) (magnitude : Nat)
  | float
  | text (text : String)
  | sequence (items : List Value)
  | mapping (entries : List (Value × Value))
  deriving Repr, Inhabited

/-- Words for nothing. -/
def nulls : List String := ["null", "Null", "NULL", "~"]

namespace Value

def bool? (text : String) : Option Value :=
  if ["true", "True", "TRUE"].contains text then some (.bool true)
  else if ["false", "False", "FALSE"].contains text then some (.bool false)
  else none

/-- Whether a whole number can be held in some bits, one of which is the sign of a negative number. -/
def fits (bits : Nat) (negative : Bool) (magnitude : Nat) : Bool :=
  if negative then magnitude ≤ Nat.pow 2 (bits - 1) else magnitude < Nat.pow 2 bits

/-- A whole number. One of more than 64 bits is refused, and one of more than 128 is not taken for whole. -/
def integer? (text : String) : Option (Except Flaw Value) :=
  let (negative, magnitude) := match text.toList with
    | '-' :: s => (true, magnitude? s)
    | s => (false, Yaml.natural? s)
  magnitude.bind fun n =>
    if fits 64 negative n then some (.ok (.integer negative n))
    else if fits 128 negative n then some (.error (.kind "a whole number of 64 bits"))
    else none

def ofPlain (text : String) : Except Flaw Value :=
  if text = "" || nulls.contains text then .ok .null
  else
    match bool? text, integer? text with
    | some value, _ => .ok value
    | none, some whole => whole
    | none, none =>
      if !isPadded (dropSign text.toList) && isFloat text then .ok .float else .ok (.text text)

def ofScalar (tag : Option Tag) (style : Style) (text : String) : Except Flaw Value :=
  match tag with
  | none => if style == .plain then ofPlain text else .ok (.text text)
  | some tag =>
    if tag = .core "bool" then
      match bool? text with
      | some value => .ok value
      | none => .error (.kind "a truth value")
    else if tag = .core "int" then (integer? text).getD (.error (.kind "a whole number"))
    else if tag = .core "float" then if isFloat text then .ok .float else .error (.kind "a number")
    else if tag = .core "null" then
      if nulls.contains text then .ok .null else .error (.kind "nothing")
    else if tag.isOwn then .error (.kind "a value without a tag of its own")
    else if tag.isMarked && style == .plain then ofPlain text
    else .ok (.text text)

end Value

end PageScript.Yaml
