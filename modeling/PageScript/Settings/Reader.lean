import PageScript.Assoc
import PageScript.Fault
import PageScript.Json.Reader
import PageScript.Settings

/-!
# Reading settings

Settings are written as a JSON object with one field for each, or as an array of the values in order, of
which the last may be left out. The path of the script has to be there. An object may have further fields,
which are not looked at, but no setting twice.
-/
namespace PageScript.Settings

def natural? (bound : Nat) : Json → Option Nat
  | .number numeral => (Text.digits? 10 numeral.toList).filter (· < bound)
  | _ => none

def string? : Json → Option String
  | .string text => text
  | _ => none

def bool? : Json → Option Bool
  | .bool b => some b
  | _ => none

/-- A field whose name is a text. -/
def named? : Option String × Json → Option (String × Json)
  | (some name, value) => some (name, value)
  | (none, _) => none

def keyCode? (field : Option String × Json) : Option (String × Nat) := do
  let (name, code) ← named? field
  return (name, ← natural? Text.bound32 code)

/-- A key code for each name. Of several for one name the last counts. -/
def keyMap? : Json → Option (List (String × Nat))
  | .object fields =>
    (fields.mapM keyCode?).map Assoc.ofList
  | _ => none

def names : List String :=
  ["keyMap", "timeout", "testFile", "delayBetween", "clearLocalStorage", "stopOnFailure"]

/-- Reads a value if there is one. -/
def orDefault {α : Type} (default : α) (read : Json → Option α) : Option Json → Option α
  | some value => read value
  | none => some default

/-- The settings whose values are given by `value`, which is asked for each by its place in the order. -/
def ofValues? (value : Nat → Option Json) : Option Settings := do
  let keyMap ← orDefault [] keyMap? (value 0)
  let timeout ← orDefault 5000 (natural? Text.bound64) (value 1)
  let testFile ← string? (← value 2)
  let delayBetween ← orDefault 0 (natural? Text.bound64) (value 3)
  let clearLocalStorage ← orDefault false bool? (value 4)
  let stopOnFailure ← orDefault false bool? (value 5)
  return { keyMap, timeout, testFile, delayBetween, clearLocalStorage, stopOnFailure }

def ofJson? : Json → Option Settings
  | .object fields => do
    let fields ← fields.mapM named?
    guard (names.all fun name => (fields.filter (·.1 == name)).length ≤ 1)
    ofValues? fun i => names[i]?.bind (fields.lookup ·)
  | .array values => do
    guard (values.length ≤ names.length)
    ofValues? fun i => values[i]?
  | _ => none

def parse (text : String) : Except Fault Settings :=
  match (Json.parse? text).bind ofJson? with
  | some settings => .ok settings
  | none => .error (.configParse "not the settings of a run")

end PageScript.Settings
