import PageScript.Assoc
import PageScript.Yaml.Cursor
import PageScript.Yaml.Node
import PageScript.Yaml.Token.Lexer

/-!
# Reading YAML documents

Builds the tree of a document from its tokens. Where a node may be left out, nothing stands for the empty
scalar. Every node takes a token at least, so their number bounds the depth of the reading.
-/
namespace PageScript.Yaml

/-- A reader of nodes: the tokens ahead, and what is known of handles and anchors. -/
structure Builder where
  tokens : List Token
  /-- What each handle of a tag stands for. -/
  handles : List (String × Tag) := []
  /-- The anchor of each name. -/
  names : List (String × Nat) := []
  /-- The anchored nodes so far, by the order in which they started, and how many there are. -/
  nodes : List (Nat × Node) := []
  started : Nat := 0
  /-- For each anchor, which of the anchored nodes it is at. -/
  places : List (Nat × Nat) := []

abbrev Build := StateT Builder (Except Flaw)

namespace Build

def peek : Build (Option Token) := do return (← get).tokens.head?

def skip : Build Unit := modify fun b => { b with tokens := b.tokens.tail }

def takes (t : Token) : Build Bool := do
  if (← peek) = some t then
    skip
    return true
  return false

def sees (ts : List Token) : Build Bool := do return (← peek).any ts.contains

/-- The full tag of a handle and a suffix. -/
def fullTag (handle : String) (suffix : Tag) : Build Tag := do
  if handle = "" then return suffix
  match (← get).handles.lookup handle with
  | some start => return suffix.after start
  | none => throw .grammar

def anchor? : Build (Option String) := do
  match ← peek with
  | some (.anchor name) =>
    skip
    return some name
  | _ => return none

def tag? : Build (Option Tag) := do
  match ← peek with
  | some (.tag handle suffix) =>
    skip
    return some (← fullTag handle suffix)
  | _ => return none

/-- The anchor and the tag in front of a node, in any order. -/
def properties : Build (Option String × Option Tag) := do
  match ← anchor? with
  | some name => return (some name, ← tag?)
  | none =>
    match ← tag? with
    | some tag => return (← anchor?, some tag)
    | none => return (none, none)

def start (name : String) : Build Nat :=
  modifyGet fun b =>
    let anchor := b.names.length
    (b.started, { b with
      names := Assoc.put name anchor b.names
      places := Assoc.put anchor b.started b.places
      started := b.started + 1 })

/-- Completes an anchored node. -/
def complete (place : Option Nat) (node : Node) : Build Node := do
  match place with
  | none => return node
  | some place =>
    modify fun b => { b with nodes := (place, node) :: b.nodes }
    return node

mutual

/-- Reads a node. Blocks may start only in a block, and a sequence without an indentation of its own only in
a mapping. -/
def node : Nat → Bool → Bool → Build Node
  | 0, _, _ => throw .grammar
  | n + 1, block, indentless => do
    match ← peek with
    | some (.reference name) =>
      skip
      match (← get).names.lookup name with
      | some anchor => return .reference anchor
      | none => throw (.unknownAnchor name)
    | _ =>
      let (name, tag) ← properties
      let place ← match name with
        | some name => pure (some (← start name))
        | none => pure none
      match ← peek, block, indentless with
      | some .blockEntry, _, true => complete place (.sequence tag (← indentlessItems n))
      | some (.scalar style text), _, _ =>
        skip
        complete place (.scalar tag style text)
      | some .flowSequenceStart, _, _ =>
        skip
        complete place (.sequence tag (← flowItems n true))
      | some .flowMappingStart, _, _ =>
        skip
        complete place (.mapping tag (← flowEntries n true))
      | some .blockSequenceStart, true, _ =>
        skip
        complete place (.sequence tag (← blockItems n))
      | some .blockMappingStart, true, _ =>
        skip
        complete place (.mapping tag (← blockEntries n))
      | _, _, _ =>
        if name.isSome || tag.isSome then complete place (.scalar tag .plain "") else throw .grammar

/-- Reads a node, unless one of some tokens shows that it is left out. -/
def nodeBefore (ends : List Token) (block indentless : Bool) : Nat → Build Node
  | 0 => throw .grammar
  | n + 1 => do if ← sees ends then return .empty else node n block indentless

def valueBefore (ends : List Token) (block : Bool) : Nat → Build Node
  | 0 => throw .grammar
  | n + 1 => do if ← takes .value then nodeBefore ends block block n else return .empty

def blockItems : Nat → Build (List Node)
  | 0 => throw .grammar
  | n + 1 => do
    if ← takes .blockEntry then
      let item ← nodeBefore [.blockEntry, .blockEnd] true false n
      return item :: (← blockItems n)
    else if ← takes .blockEnd then return []
    else throw .grammar

def indentlessItems : Nat → Build (List Node)
  | 0 => throw .grammar
  | n + 1 => do
    if ← takes .blockEntry then
      let item ← nodeBefore [.blockEntry, .key, .value, .blockEnd] true false n
      return item :: (← indentlessItems n)
    else return []

def blockEntries : Nat → Build (List (Node × Node))
  | 0 => throw .grammar
  | n + 1 => do
    if ← takes .key then
      let key ← nodeBefore [.key, .value, .blockEnd] true true n
      let value ← valueBefore [.key, .value, .blockEnd] true n
      return (key, value) :: (← blockEntries n)
    else if ← takes .blockEnd then return []
    else throw .grammar

/-- Reads the key of an entry in square brackets. Where it is left out, the token behind its mark is passed
over. -/
def flowKey : Nat → Build Node
  | 0 => throw .grammar
  | n + 1 => do
    if ← sees [.value, .flowEntry, .flowSequenceEnd] then
      skip
      return .empty
    else node n false false

/-- Reads what stands in square brackets. A marked key makes a mapping of one entry. -/
def flowItems : Nat → Bool → Build (List Node)
  | 0, _ => throw .grammar
  | n + 1, first => do
    if ← takes .flowSequenceEnd then return []
    if !first then
      if !(← takes .flowEntry) then throw .grammar
    if ← takes .key then
      let key ← flowKey n
      let value ← valueBefore [.flowEntry, .flowSequenceEnd] false n
      return .mapping none [(key, value)] :: (← flowItems n false)
    else if ← takes .flowSequenceEnd then return []
    else
      let item ← node n false false
      return item :: (← flowItems n false)

/-- Reads what stands in braces. An item that is not marked as a key has no value. -/
def flowEntries : Nat → Bool → Build (List (Node × Node))
  | 0, _ => throw .grammar
  | n + 1, first => do
    if ← takes .flowMappingEnd then return []
    if !first then
      if !(← takes .flowEntry) then throw .grammar
    if ← takes .key then
      let key ← nodeBefore [.value, .flowEntry, .flowMappingEnd] false false n
      let value ← valueBefore [.flowEntry, .flowMappingEnd] false n
      return (key, value) :: (← flowEntries n false)
    else if ← takes .flowMappingEnd then return []
    else
      let key ← node n false false
      return (key, .empty) :: (← flowEntries n false)

end

/-- Handles that need no directive. -/
def knownHandles : List (String × Tag) := [("!", .mark), ("!!", .coreStart)]

/-- Reads the directives of a document. There is one version at most, and each handle is given once. -/
def directives : Nat → Bool → Build Unit
  | 0, _ => throw .grammar
  | n + 1, versioned => do
    match ← peek with
    | some (.versionDirective major minor) =>
      skip
      if versioned || major != 1 || (minor != 1 && minor != 2) then throw .grammar
      directives n true
    | some (.tagDirective handle start) =>
      skip
      if ((← get).handles.lookup handle).isSome then throw .grammar
      modify fun b => { b with handles := b.handles ++ [(handle, start)] }
      directives n versioned
    | _ => return ()

def startsMarked : Build Bool := do
  match ← peek with
  | some (.versionDirective _ _) | some (.tagDirective _ _) | some .documentStart => return true
  | _ => return false

def content (n : Nat) : Build Node := do
  if ← startsMarked then
    directives n false
    if !(← takes .documentStart) then throw .grammar
    modify fun b => { b with handles := b.handles ++ knownHandles }
    if (← peek).isNone || (← startsMarked) || (← sees [.documentEnd]) then return .empty
  else
    modify fun b => { b with handles := knownHandles }
  node n true false

/-- Reads the marks at the end of a document, behind which there may be no other one. -/
def ending : Nat → Build Unit
  | 0 => throw .documents
  | n + 1 => do
    if ← takes .documentEnd then ending n
    else if (← peek).isSome then throw .documents

end Build

def Builder.anchors (b : Builder) : List (Nat × Node) :=
  b.places.filterMap fun (anchor, place) => (b.nodes.lookup place).map (anchor, ·)

def Document.parse (text : String) : Except Flaw Document := do
  let tokens ← Token.readAll text
  if tokens.isEmpty then return { root := none }
  let bound := 4 * tokens.length + 4
  let (root, b) ← (Build.content bound).run { tokens }
  let (_, b) ← (Build.ending bound).run b
  return { root := some root, anchors := b.anchors }

end PageScript.Yaml
