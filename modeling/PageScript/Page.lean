/-!
# Pages

A page is the description from which a document is built: the elements of its body, the effects of
clicking an element or pressing a key, the keys it refuses, and what it has stored locally. Nothing here
is checked; a target that is no selector is found out when its effect happens.
-/
namespace PageScript

mutual

/-- An element and all that is below it. -/
structure Element where
  tag : String
  id : Option String := none
  /-- Class tokens with blanks between them. -/
  className : Option String := none
  value : Option String := none
  text : Option String := none
  attrs : List (String × String) := []
  children : List Element := []
  /-- What clicking the element does, in order. -/
  onClick : List Effect := []

/-- A change to the first element that matches a selector. -/
structure Effect where
  target : String
  change : Change
  /-- How long after its trigger the change happens, in milliseconds. -/
  delay : Nat := 0

/-- What an effect does to its target. -/
inductive Change where
  | setValue (value : String)
  | setText (text : String)
  | addClass (token : String)
  | removeClass (token : String)
  /-- Puts a new element behind the children of the target. -/
  | append (element : Element)
  /-- Takes the target, and all that is below it, out of the document. -/
  | remove

end

deriving instance Repr, BEq for Element, Effect, Change

instance : Inhabited Element := ⟨{ tag := "" }⟩

instance : Inhabited Effect := ⟨{ target := "", change := .remove }⟩

structure Page where
  body : List Element := []
  /-- What a key-down of each code does. A code occurs once. -/
  onKey : List (Nat × List Effect) := []
  /-- Codes of the keys whose key-down the page refuses. -/
  preventDefault : List Nat := []
  localStorage : List (String × String) := []
  deriving Repr, BEq, Inhabited

mutual

/-- How many elements there are in an element, itself included. -/
def Element.size : Element → Nat
  | { children, .. } => 1 + Element.sizeAll children

def Element.sizeAll : List Element → Nat
  | [] => 0
  | element :: elements => element.size + Element.sizeAll elements

end

end PageScript
