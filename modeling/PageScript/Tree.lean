import PageScript.Page
import PageScript.Text.Blank
import PageScript.Text.LetterCase

/-!
# Trees of elements

The elements of a document form a tree. Each has a number, by which it is spoken of, and a number never
changes hands: a new subtree takes the next numbers in document order, so that a child has a larger number
than its parent. Document order is the order of a walk that visits an element before its children and
these from first to last.
-/
namespace PageScript

/-- What a document knows of one element. Tags are in lower case, as far as they are ASCII. -/
structure Node where
  number : Nat
  tag : String
  id : Option String := none
  classes : List String := []
  value : String := ""
  text : String := ""
  attrs : List (String × String) := []
  onClick : List Effect := []
  deriving Repr, BEq, Inhabited

/-- An element with the elements below it. -/
structure Tree where
  root : Node
  children : List Tree
  deriving Repr, BEq, Inhabited

/-- The class tokens of a text: what stands between its blanks. -/
def classTokens (text : String) : List String := (Text.words text.toList).map String.ofList

def Node.ofElement (number : Nat) (e : Element) : Node where
  number := number
  tag := Text.asciiLowercase e.tag
  id := e.id
  classes := (e.className.map classTokens).getD []
  value := e.value.getD ""
  text := e.text.getD ""
  attrs := e.attrs
  onClick := e.onClick

namespace Tree

mutual

/-- The tree of an element whose numbers start at `next`. -/
def ofElement (next : Nat) : Element → Tree
  | { tag, id, className, value, text, attrs, children, onClick } =>
    ⟨.ofElement next { tag, id, className, value, text, attrs, onClick }, ofElements (next + 1) children⟩

/-- The trees of elements side by side; each starts where the one before it ended. -/
def ofElements (next : Nat) : List Element → List Tree
  | [] => []
  | element :: elements => ofElement next element :: ofElements (next + element.size) elements

end

mutual

/-- The nodes in document order. -/
def nodes : Tree → List Node
  | ⟨root, children⟩ => root :: nodesAll children

def nodesAll : List Tree → List Node
  | [] => []
  | tree :: trees => tree.nodes ++ nodesAll trees

end

def numbers (t : Tree) : List Nat := t.nodes.map Node.number

mutual

/-- The nodes in document order, each in front of its ancestors from its parent up to the root. `above` are
the ancestors of the whole tree. -/
def paths (above : List Node) : Tree → List (List Node)
  | ⟨root, children⟩ => (root :: above) :: pathsAll (root :: above) children

def pathsAll (above : List Node) : List Tree → List (List Node)
  | [] => []
  | tree :: trees => tree.paths above ++ pathsAll above trees

end

mutual

def find? (number : Nat) : Tree → Option Tree
  | ⟨root, children⟩ => if root.number = number then some ⟨root, children⟩ else findAll? number children

def findAll? (number : Nat) : List Tree → Option Tree
  | [] => none
  | tree :: trees => (tree.find? number).or (findAll? number trees)

end

mutual

/-- Changes the subtree of a number. Nothing outside it changes. -/
def modify (number : Nat) (change : Tree → Tree) : Tree → Tree
  | ⟨root, children⟩ =>
    if root.number = number then change ⟨root, modifyAll number change children⟩
    else ⟨root, modifyAll number change children⟩

def modifyAll (number : Nat) (change : Tree → Tree) : List Tree → List Tree
  | [] => []
  | tree :: trees => tree.modify number change :: modifyAll number change trees

end

/-- Changes the node of a number and leaves the shape as it is. -/
def update (number : Nat) (change : Node → Node) : Tree → Tree :=
  modify number fun t => { t with root := change t.root }

/-- Puts a tree behind the children of the node of a number. -/
def append (number : Nat) (t new : Tree) : Tree :=
  t.modify number fun t => { t with children := t.children ++ [new] }

mutual

/-- Takes out the subtree of a number that is below the root. -/
def remove (number : Nat) : Tree → Tree
  | ⟨root, children⟩ => ⟨root, removeAll number children⟩

def removeAll (number : Nat) : List Tree → List Tree
  | [] => []
  | tree :: trees =>
    if tree.root.number = number then removeAll number trees
    else tree.remove number :: removeAll number trees

end

/-- The parent of the node of a number; there is none for the root and for a number that does not occur. -/
def parent? (number : Nat) (t : Tree) : Option Node :=
  (t.paths []).findSome? fun
    | node :: parent :: _ => if node.number = number then some parent else none
    | _ => none

def descendants (t : Tree) : List Node := nodesAll t.children

end Tree

end PageScript
