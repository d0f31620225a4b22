import PageScript.Page
import PageScript.Yaml.Decoding

/-!
# Pages in YAML values

The part of a page that an effect carries with it is read from values that already have their kinds, so a text
has to be a text and not a number that could be written the same. A field is named by a text or by its place.
-/
namespace PageScript

open Yaml

def Element.fieldNames : List String :=
  ["tag", "id", "class", "value", "text", "attrs", "children", "on_click"]

def Change.actions : List String :=
  ["set_value", "set_text", "add_class", "remove_class", "append", "remove"]

namespace Yaml.Value

def asText : Value → Except Flaw String
  | .text t => .ok t
  | _ => .error (.kind "a text")

def asTextOrNull : Value → Except Flaw (Option String)
  | .null => .ok none
  | value => value.asText.map some

def asNatural : Value → Except Flaw Nat
  | .integer false n => .ok n
  | .integer true 0 => .ok 0
  | _ => .error (.kind "a number")

def asItems : Value → Except Flaw (List Value)
  | .sequence items => .ok items
  | _ => .error (.kind "a sequence")

/-- The text for each text, of which the last counts. -/
def asTexts : Value → Except Flaw (List (String × String))
  | .mapping entries => do
    return Assoc.ofList (← entries.mapM fun (key, value) => return (← asText key, ← asText value))
  | _ => .error (.kind "a mapping")

/-- The name that a value gives or whose place it gives, if there is such a place. -/
def asName (names : List String) : Value → Except Flaw (Option String)
  | .text name => .ok (some name)
  | .integer false place => .ok names[place]?
  | _ => .error (.kind "a name")

/-- Entries by their names, each of which is known once at most. -/
def fieldsOf (names : List String) (entries : List (Value × Value)) :
    Except Flaw (List (String × Value)) := do
  let fields ← entries.filterMapM fun (key, value) => return (← key.asName names).map (·, value)
  if anyTwice names fields then throw (.kind "each field once")
  return fields

/-- The fields of a record: entries by their names or the values in the order of the names. -/
def asFields (names : List String) : Value → Except Flaw (List (String × Value))
  | .sequence items =>
    if names.length < items.length then .error (.kind "fewer fields") else .ok (names.zip items)
  | .mapping entries => fieldsOf names entries
  | _ => .error (.kind "fields")

/-- Reads the only field that a record knows, which has to be there. -/
def onlyField {α : Type} (name : String) (read : Value → Except Flaw α) (entries : List (Value × Value)) :
    Except Flaw α := do
  field name read (← fieldsOf [name] entries)

end Yaml.Value

open Value

/-- The change of an effect from its entries. A kind of change has one field at most, and entries that are
not its field are not looked at. -/
def Change.ofEntries (element : Value → Except Flaw Element) (entries : List (Value × Value)) :
    Except Flaw Change := do
  let isAction := fun entry : Value × Value => entry.1.asText.toOption == some "action"
  let [(_, action)] := entries.filter isAction | throw (.kind "one action")
  let rest := entries.filter (!isAction ·)
  match ← action.asName actions with
  | some "set_value" => return .setValue (← onlyField "value" asText rest)
  | some "set_text" => return .setText (← onlyField "text" asText rest)
  | some "add_class" => return .addClass (← onlyField "class" asText rest)
  | some "remove_class" => return .removeClass (← onlyField "class" asText rest)
  | some "append" => return .append (← onlyField "element" element rest)
  | some "remove" => return .remove
  | _ => throw (.kind "an action")

def Effect.ownFields : List String := ["target", "delay_ms"]

/-- The entries of an effect, its own apart from those of its change. -/
def Effect.parted (entries : List (Value × Value)) :
    Except Flaw (List (String × Value) × List (Value × Value)) := do
  let keyed ← entries.mapM fun (key, value) => return (← key.asName [], key, value)
  let isOwn := fun (entry : Option String × Value × Value) => entry.1.any ownFields.contains
  let own := (keyed.filter isOwn).filterMap fun (name, _, value) => name.map (·, value)
  if anyTwice ownFields own then throw (.kind "each field once")
  return (own, (keyed.filter (!isOwn ·)).map Prod.snd)

mutual

/-- Reads an element from a value. Values nest to a depth, which bounds the reading. -/
def Element.ofValue : Nat → Value → Except Flaw Element
  | 0, _ => .error .depth
  | depth + 1, value => do
    let fields ← value.asFields Element.fieldNames
    return {
      tag := ← field "tag" asText fields
      id := ← fieldOr "id" none asTextOrNull fields
      className := ← fieldOr "class" none asTextOrNull fields
      value := ← fieldOr "value" none asTextOrNull fields
      text := ← fieldOr "text" none asTextOrNull fields
      attrs := ← fieldOr "attrs" [] asTexts fields
      children := ← fieldOr "children" []
        (fun value => do (← value.asItems).mapM (Element.ofValue depth)) fields
      onClick := ← fieldOr "on_click" []
        (fun value => do (← value.asItems).mapM (Effect.ofValue depth)) fields }

def Effect.ofValue : Nat → Value → Except Flaw Effect
  | 0, _ => .error .depth
  | depth + 1, value => do
    match value with
    | .mapping entries =>
      let (own, rest) ← Effect.parted entries
      return {
        target := ← field "target" asText own
        delay := ← fieldOr "delay_ms" 0 Value.asNatural own
        change := ← Change.ofEntries (Element.ofValue depth) rest }
    | _ => throw (.kind "a mapping")

end

end PageScript
