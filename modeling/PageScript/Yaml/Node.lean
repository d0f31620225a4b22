import PageScript.Yaml.Token

/-!
# YAML documents

The content of a document is a tree of scalars, sequences and mappings. A node may carry an anchor, and an
alias stands for an anchored node. Which node that is is settled only when the whole document is known, for
a name may be given again.
-/
namespace PageScript.Yaml

inductive Node where
  /-- Stands for the node at an anchor. -/
  | reference (anchor : Nat)
  | scalar (tag : Option Tag) (style : Style) (text : String)
  | sequence (tag : Option Tag) (items : List Node)
  | mapping (tag : Option Tag) (entries : List (Node × Node))
  deriving Repr, BEq, Inhabited

namespace Node

/-- What stands where nothing is written. -/
def empty : Node := scalar none .plain ""

mutual

/-- How many marks it takes to write a node: one for a scalar or an alias, two around a collection. -/
def size : Node → Nat
  | reference _ => 1
  | scalar _ _ _ => 1
  | sequence _ items => 2 + sizeAll items
  | mapping _ entries => 2 + sizeEntries entries

def sizeAll : List Node → Nat
  | [] => 0
  | node :: nodes => node.size + sizeAll nodes

def sizeEntries : List (Node × Node) → Nat
  | [] => 0
  | (key, value) :: entries => key.size + value.size + sizeEntries entries

end

end Node

structure Document where
  /-- The content, none if the text is empty. -/
  root : Option Node
  /-- The node of each anchor. -/
  anchors : List (Nat × Node) := []
  deriving Repr, Inhabited

end PageScript.Yaml
