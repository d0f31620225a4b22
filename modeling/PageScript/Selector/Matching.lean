import PageScript.Selector
import PageScript.Tree

/-!
# Matching selectors

Whether an element matches a selector depends on it and its ancestors, so a selector is matched against a
path: the element, its parent and so on up to the root. The last compound has to accept the element
itself, and each compound before it an ancestor that stands where the combinator between them says.
-/
namespace PageScript

/-- Whether a node meets all conditions of a compound. Letter case does not count in ASCII tags. -/
def Compound.accepts (c : Compound) (n : Node) : Bool :=
  c.tag.all (Text.asciiLowercase n.tag == Text.asciiLowercase ·) &&
    c.id.all (n.id == some ·) &&
    c.classes.all n.classes.contains &&
    c.attributes.all fun (name, expected) =>
      match n.attrs.lookup name with
      | none => false
      | some actual => expected.all (actual == ·)

namespace Selector

/-- Each node of a path with the path above it. -/
def climbs : List Node → List (Node × List Node)
  | [] => []
  | node :: above => (node, above) :: climbs above

/-- Whether the ancestors of an element, from its parent up, fit compounds read from right to left. -/
def fits : List (Combinator × Compound) → List Node → Bool
  | [], _ => true
  | (.child, compound) :: links, path =>
    match path with
    | [] => false
    | node :: above => compound.accepts node && fits links above
  | (.descendant, compound) :: links, path =>
    (climbs path).any fun (node, above) => compound.accepts node && fits links above

def acceptsPath (s : Selector) : List Node → Bool
  | [] => false
  | node :: above => s.backwards.1.accepts node && fits s.backwards.2 above

def select (s : Selector) (t : Tree) : List Node :=
  (t.paths []).filterMap fun path => if s.acceptsPath path then path.head? else none

end Selector

end PageScript
