import PageScript.Fault
import PageScript.Text.Alphanumeric
import PageScript.Text.Blank
import PageScript.Text.LetterCase

/-!
# Selectors

A selector is a line of compounds, such as `ul#menu > .item[data-row=1]`. A compound asks for a tag or
takes any (`*`), and then for an id, classes and attributes. Between two compounds stands a combinator:
`>` for the parent, or nothing but blanks for any ancestor. A selector is read in one pass from left to
right, and the first flaw found is the one reported.
-/
namespace PageScript

/-- How an element relates to the one that the compound before asks for. -/
inductive Combinator where
  | descendant
  | child
  deriving DecidableEq, Repr

/-- What a selector asks of one element. -/
structure Compound where
  tag : Option String := none
  id : Option String := none
  classes : List String := []
  /-- Names of attributes with the value each has to have, if it matters. -/
  attributes : List (String × Option String) := []
  deriving DecidableEq, Repr

structure Selector where
  first : Compound
  rest : List (Combinator × Compound)
  deriving DecidableEq, Repr

namespace Selector

inductive Flaw where
  | unexpectedChild
  | danglingChild
  | empty
  | expectedName
  | unterminated
  | unsupported (c : Char)
  | invalidAttribute
  deriving DecidableEq, Repr

def Flaw.message : Flaw → String
  | unexpectedChild => "unexpected '>'"
  | danglingChild => "dangling '>'"
  | empty => "empty selector"
  | expectedName => "expected a name"
  | unterminated => "unterminated '['"
  | unsupported c => s!"unsupported character '{c}'"
  | invalidAttribute => "invalid attribute name"

/-- Characters of which names are made. -/
def isNameChar (c : Char) : Bool := Text.isAlphanumeric c || c == '-' || c == '_'

def nameAt (s : List Char) : Except Flaw (String × List Char) :=
  match s.takeWhile isNameChar with
  | [] => .error .expectedName
  | name => .ok (String.ofList name, s.dropWhile isNameChar)

def isQuote (c : Char) : Bool := c == '"' || c == '\''

/-- Reads what stands between the square brackets of an attribute condition. -/
def attributeOf (body : List Char) : Except Flaw (String × Option String) :=
  let (name, value) := match Text.splitFirst '=' body with
    | some (name, value) =>
      (Text.trim name, some (String.ofList (Text.trimWhere isQuote (Text.trim value))))
    | none => (Text.trim body, none)
  if name ≠ [] ∧ name.all isNameChar then .ok (String.ofList name, value) else .error .invalidAttribute

/-- Reads the conditions behind the start of a compound, up to a blank, a `>` or the end. Each of them takes
a character of the text, so its length bounds their number. -/
def conditionsAt : Nat → Compound → List Char → Except Flaw (Compound × List Char)
  | 0, compound, s => .ok (compound, s)
  | _, compound, [] => .ok (compound, [])
  | n + 1, compound, c :: s =>
    if c = '#' then do
      let (id, s) ← nameAt s
      conditionsAt n { compound with id := some id } s
    else if c = '.' then do
      let (name, s) ← nameAt s
      conditionsAt n { compound with classes := compound.classes ++ [name] } s
    else if c = '[' then
      match Text.splitFirst ']' s with
      | none => .error .unterminated
      | some (body, s) => do
        let condition ← attributeOf body
        conditionsAt n { compound with attributes := compound.attributes ++ [condition] } s
    else if Text.isBlank c || c == '>' then .ok (compound, c :: s)
    else .error (.unsupported c)

/-- Reads a compound from its first character, which is neither a blank nor a `>`. -/
def compoundAt (s : List Char) : Except Flaw (Compound × List Char) :=
  match s with
  | [] => .error .expectedName
  | c :: rest =>
    if c = '*' then conditionsAt rest.length {} rest
    else if isNameChar c then
      let name := String.ofList (s.takeWhile isNameChar)
      let rest := s.dropWhile isNameChar
      conditionsAt rest.length { tag := some (Text.asciiLowercase name) } rest
    else conditionsAt s.length {} s

/-- Reads the combinators and compounds behind a compound. -/
def restAt : Nat → List Char → Except Flaw (List (Combinator × Compound))
  | 0, _ => .ok []
  | n + 1, s =>
    match Text.trimStart s with
    | [] => .ok []
    | '>' :: s =>
      match Text.trimStart s with
      | [] => .error .danglingChild
      | '>' :: _ => .error .unexpectedChild
      | s => do
        let (compound, s) ← compoundAt s
        return (.child, compound) :: (← restAt n s)
    | s => do
      let (compound, s) ← compoundAt s
      return (.descendant, compound) :: (← restAt n s)

def parseChars (s : List Char) : Except Flaw Selector :=
  match Text.trim s with
  | [] => .error .empty
  | '>' :: _ => .error .unexpectedChild
  | s => do
    let (compound, s) ← compoundAt s
    return ⟨compound, ← restAt (s.length + 1) s⟩

def parse (text : String) : Except Fault Selector :=
  match parseChars text.toList with
  | .ok selector => .ok selector
  | .error flaw => .error (.invalidSelector text flaw.message)

/-- The compounds from the last to the first, the last one with the combinator in front of each. -/
def backwards (s : Selector) : Compound × List (Combinator × Compound) :=
  s.rest.foldl (fun (last, links) (combinator, compound) => (compound, (combinator, last) :: links))
    (s.first, [])

end Selector

end PageScript
