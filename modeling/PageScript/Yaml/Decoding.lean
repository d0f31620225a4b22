import PageScript.Assoc
import PageScript.Yaml.Node
import PageScript.Yaml.Value

/-!
# Decoding YAML documents

Taking a document apart by what is asked for at each place: a text, a number, items, entries, named fields
or whatever value stands there. A text is any scalar as it is written. An alias stands for its node wherever
one is looked at, but only so many times in a document. Collections may lie in one another up to a depth, of
which each reading gets what is left; nodes that nobody asks for are not looked at.
-/
namespace PageScript.Yaml

/-- How deep collections may lie in one another. -/
def maxDepth : Nat := 128

/-- Decoding of the nodes of a document, with the number of aliases that may still be followed. -/
abbrev Decode := ReaderT Document (StateT Nat (Except Flaw))

/-- Whether one of some names is given twice. -/
def anyTwice {α : Type} (names : List String) (fields : List (String × α)) : Bool :=
  names.any fun name => 1 < fields.countP (·.1 == name)

section Fields

variable {m : Type → Type} [Monad m] [MonadExcept Flaw m] {α ν : Type}

def field (name : String) (read : ν → m α) (fields : List (String × ν)) : m α :=
  match fields.lookup name with
  | some value => read value
  | none => throw (.kind s!"a field {name}")

/-- Reads a field that may be left out. -/
def fieldOr (name : String) (default : α) (read : ν → m α) (fields : List (String × ν)) : m α :=
  match fields.lookup name with
  | some value => read value
  | none => return default

end Fields

namespace Decode

/-- The node that an alias stands for. -/
def follow : Node → Decode Node
  | .reference anchor => do
    if (← get) = 0 then throw .repetition
    modify (· - 1)
    match (← read).anchors.lookup anchor with
    | some node => return node
    | none => throw .grammar
  | node => return node

def text (node : Node) : Decode String := do
  match ← follow node with
  | .scalar _ _ text => return text
  | _ => throw (.kind "a text")

/-- A text, or nothing where a word for nothing or nothing at all is written. -/
def text? (node : Node) : Decode (Option String) := do
  match ← follow node with
  | .scalar none .plain text => return if text = "" || nulls.contains text then none else some text
  | .scalar (some tag) .plain text =>
    if tag != .core "null" then return some text
    else if nulls.contains text then return none
    else throw (.kind "nothing")
  | .scalar _ _ text => return some text
  | _ => throw (.kind "a text")

def natural (bound : Nat) (node : Node) : Decode Nat := do
  match ← follow node with
  | .scalar tag style text =>
    let bare := style == .plain || (style == .literal && tag == some (.core "int"))
    match (Yaml.natural? text.toList).filter (bare && · < bound) with
    | some n => return n
    | none => throw (.kind "a number")
  | _ => throw (.kind "a number")

/-- Refuses a collection where no depth is left. -/
def enter (depth : Nat) : Decode Unit := if depth = 0 then throw .depth else return ()

def items (depth : Nat) (node : Node) : Decode (List Node) := do
  match ← follow node with
  | .sequence _ items =>
    enter depth
    return items
  | .scalar _ .plain "" => return []
  | _ => throw (.kind "a sequence")

/-- The entries of a mapping, none where nothing is written. -/
def entries (depth : Nat) (node : Node) : Decode (List (Node × Node)) := do
  match ← follow node with
  | .mapping _ entries =>
    enter depth
    return entries
  | .scalar _ .plain "" => return []
  | _ => throw (.kind "a mapping")

/-- The entries of a mapping, of which the last counts for each key. -/
def assoc {α β : Type} [BEq α] (key : Node → Decode α) (value : Node → Decode β) (depth : Nat)
    (node : Node) : Decode (List (α × β)) := do
  let entries ← (← entries depth node).mapM fun (k, v) => return (← key k, ← value v)
  return Assoc.ofList entries

def named (depth : Nat) (node : Node) : Decode (List (String × Node)) := do
  (← entries depth node).mapM fun (key, value) => return (← text key, value)

/-- The fields of a record: entries by their names, each of which is known once at most. -/
def fields (names : List String) (depth : Nat) (node : Node) : Decode (List (String × Node)) := do
  let fields ← named depth node
  if anyTwice names fields then throw (.kind "each field once")
  return fields

/-- A value with no tag of its own. -/
def ownless (tag : Option Tag) : Decode Unit :=
  if tag.any Tag.isOwn then throw (.kind "a value without a tag of its own") else return ()

def value (depth : Nat) (node : Node) : Decode Value := do
  match ← follow node, depth with
  | .scalar tag style text, _ => Value.ofScalar tag style text
  | .sequence tag items, depth + 1 =>
    ownless tag
    return .sequence (← items.mapM (value depth))
  | .mapping tag entries, depth + 1 =>
    ownless tag
    return .mapping (← entries.mapM fun (k, v) => return (← value depth k, ← value depth v))
  | _, _ => throw .depth

end Decode

/-- Decodes a document, which is some default where it is empty. As many aliases may be followed as a hundred
times the marks it takes to write the content. -/
def Document.decode {α : Type} (default : α) (read : Node → Decode α) (document : Document) :
    Except Flaw α :=
  match document.root with
  | none => .ok default
  | some root => ((read root).run document).run' (100 * root.size)

end PageScript.Yaml
