import PageScript.Selector.Matching

/-!
# Documents

A document is a tree of numbered elements under its body, which is number 0, together with what the page
lays down about keys and storage and a record of the clicks and key-downs so far. Numbers are never used
again: an element that was taken out keeps its own, and every later use of it finds it stale.
-/
namespace PageScript

structure Document where
  body : Tree := ⟨{ number := 0, tag := "body" }, []⟩
  /-- The number of the next new element. -/
  next : Nat := 1
  /-- The subtrees taken out, the latest first, as they were at that moment. No request reads them; they are what is
  stored of the elements that are gone. -/
  removed : List Tree := []
  onKey : List (Nat × List Effect) := []
  preventDefault : List Nat := []
  localStorage : List (String × String) := []
  /-- The elements clicked so far, in order. -/
  activations : List Nat := []
  /-- The key codes received so far, in order. -/
  keyDowns : List Nat := []
  deriving Repr, BEq, Inhabited

namespace Document

def ofPage (p : Page) : Document where
  body := ⟨{ number := 0, tag := "body" }, Tree.ofElements 1 p.body⟩
  next := 1 + Element.sizeAll p.body
  onKey := p.onKey
  preventDefault := p.preventDefault
  localStorage := p.localStorage

variable (d : Document)

def nodes : List Node := d.body.nodes

def subtree (number : Nat) : Except Fault Tree :=
  match d.body.find? number with
  | some t => .ok t
  | none => .error (.staleElement number)

def node (number : Nat) : Except Fault Node := (d.subtree number).map Tree.root

def selectAll (selector : String) : Except Fault (List Node) :=
  (Selector.parse selector).map (·.select d.body)

def selectFirst (selector : String) : Except Fault (Option Node) :=
  (d.selectAll selector).map List.head?

/-- The first match of a selector, none if the selector is invalid. -/
def find? (selector : String) : Option Node := (d.selectFirst selector).toOption.join

/-- The elements of a tag below an element, in document order. Letter case does not count in ASCII tags. -/
def elementsByTag (number : Nat) (tag : String) : Except Fault (List Nat) :=
  (d.subtree number).map fun t =>
    (t.descendants.filter fun n => Text.asciiLowercase n.tag == Text.asciiLowercase tag).map Node.number

def children (number : Nat) : Except Fault (List Nat) :=
  (d.subtree number).map fun t => t.children.map (·.root.number)

def parent (number : Nat) : Except Fault (Option Nat) :=
  (d.node number).map fun n => (d.body.parent? n.number).map Node.number

def value (number : Nat) : Except Fault String := (d.node number).map Node.value

def text (number : Nat) : Except Fault String := (d.node number).map Node.text

def classNames (number : Nat) : Except Fault (List String) := (d.node number).map Node.classes

def attr (number : Nat) (name : String) : Except Fault (Option String) :=
  (d.node number).map (·.attrs.lookup name)

def update (number : Nat) (change : Node → Node) : Document :=
  { d with body := d.body.update number change }

def setValue (number : Nat) (value : String) : Except Fault Document :=
  (d.node number).map fun n => d.update n.number ({ · with value })

/-- Puts a new element behind the children of an element. -/
def insert (parent : Nat) (element : Element) : Document :=
  { d with body := d.body.append parent (Tree.ofElement d.next element), next := d.next + element.size }

def remove (t : Tree) : Document :=
  { d with body := d.body.remove t.root.number, removed := t :: d.removed }

/-- Puts a new element behind the children of the first match of a selector; answers its number. -/
def append (selector : String) (element : Element) : Except Fault (Nat × Document) := do
  match ← d.selectFirst selector with
  | some n => return (d.next, d.insert n.number element)
  | none => throw (.driver s!"no element matches {selector}")

/-- Changes one element. The body is there to stay. -/
def change (n : Node) : Change → Except Fault Document
  | .setValue value => .ok (d.update n.number ({ · with value }))
  | .setText text => .ok (d.update n.number ({ · with text }))
  | .addClass token =>
    .ok (d.update n.number fun n =>
      if n.classes.contains token then n else { n with classes := n.classes ++ [token] })
  | .removeClass token =>
    .ok (d.update n.number fun n => { n with classes := n.classes.filter (· != token) })
  | .append element => .ok (d.insert n.number element)
  | .remove =>
    if n.number = d.body.root.number then .error (.driver "cannot remove the document body")
    else (d.subtree n.number).map d.remove

/-- Applies an effect without regard to its delay. The answer is none if the target is missing; then the
effect is skipped. -/
def apply (e : Effect) : Except Fault (Option Document) := do
  match ← d.selectFirst e.target with
  | none => return none
  | some n => return some (← d.change n e.change)

/-- Records a click on an element and answers the element's effects. -/
def activate (number : Nat) : Except Fault (List Effect × Document) :=
  (d.node number).map fun n => (n.onClick, { d with activations := d.activations ++ [n.number] })

/-- Records a key-down and answers the effects of the key. -/
def keyDown (code : Nat) : List Effect × Document :=
  ((d.onKey.lookup code).getD [], { d with keyDowns := d.keyDowns ++ [code] })

def clearLocalStorage : Document := { d with localStorage := [] }

end Document

end PageScript
