import PageScript.Fault
import PageScript.Page.Values
import PageScript.Text.Numeral
import PageScript.Yaml.Node.Reader

/-!
# Reading pages

A page is written as a YAML document. Where a text is asked for, any scalar is read as it is written; only
the fields of a change have to be of the right kind by themselves. Unknown fields are not looked at.
-/
namespace PageScript

open Yaml Yaml.Decode

/-- Decodes an effect. Its own fields are texts and numbers as written. -/
def Effect.decode (depth : Nat) (node : Yaml.Node) : Decode Effect := do
  let fields ← named depth node
  if anyTwice Effect.ownFields fields then throw (.kind "each field once")
  let rest ← (fields.filter (!Effect.ownFields.contains ·.1)).mapM fun (name, node) =>
    return (Value.text name, ← value (depth - 1) node)
  return {
    target := ← field "target" Decode.text fields
    delay := ← fieldOr "delay_ms" 0 (natural Text.bound64) fields
    change := ← Change.ofEntries (Element.ofValue maxDepth) rest }

def Effect.decodeAll (depth : Nat) (node : Yaml.Node) : Decode (List Effect) := do
  (← items depth node).mapM (Effect.decode (depth - 1))

mutual

def Element.decode : Nat → Yaml.Node → Decode Element
  | 0, _ => throw .depth
  | depth + 1, node => do
    let fields ← fields Element.fieldNames (depth + 1) node
    return {
      tag := ← field "tag" Decode.text fields
      id := ← fieldOr "id" none Decode.text? fields
      className := ← fieldOr "class" none Decode.text? fields
      value := ← fieldOr "value" none Decode.text? fields
      text := ← fieldOr "text" none Decode.text? fields
      attrs := ← fieldOr "attrs" [] (assoc Decode.text Decode.text depth) fields
      children := ← fieldOr "children" [] (Element.decodeAll depth) fields
      onClick := ← fieldOr "on_click" [] (Effect.decodeAll depth) fields }

/-- Decodes elements in a sequence, of which there is none without depth. -/
def Element.decodeAll : Nat → Yaml.Node → Decode (List Element)
  | 0, node => do
    let _ ← items 0 node
    return []
  | depth + 1, node => do
    (← items (depth + 1) node).mapM (Element.decode depth)

end

namespace Page

def fieldNames : List String := ["body", "on_key", "prevent_default", "local_storage"]

def decode (node : Yaml.Node) : Decode Page := do
  let depth := maxDepth - 1
  let fields ← fields fieldNames maxDepth node
  return {
    body := ← fieldOr "body" [] (Element.decodeAll depth) fields
    onKey := ← fieldOr "on_key" []
      (assoc (natural Text.bound32) (Effect.decodeAll (depth - 1)) depth) fields
    preventDefault := ← fieldOr "prevent_default" []
      (fun node => do (← items depth node).mapM (natural Text.bound32)) fields
    localStorage := ← fieldOr "local_storage" [] (assoc Decode.text Decode.text depth) fields }

/-- Reads a page. An empty text is the empty page. -/
def parse (text : String) : Except Fault Page :=
  match (Yaml.Document.parse text).bind (Yaml.Document.decode {} decode) with
  | .ok page => .ok page
  | .error flaw => .error (.yaml flaw.message)

def load {m : Type → Type} [Monad m] (read : String → m (Except Fault String)) (path : String) :
    m (Except Fault Page) := do
  return (← read path).bind parse

end Page

end PageScript
