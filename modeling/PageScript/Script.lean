import PageScript.Fault
import PageScript.Json.Reader

/-!
# Scripts

A script is written as a JSON array of at least one string, one for each line.
-/
namespace PageScript.Script

def ofJson? : Json → Option (List String)
  | .array values => values.mapM fun
    | .string text => text
    | _ => none
  | _ => none

/-- Reads the lines of a script, which came from a path. -/
def parse (path text : String) : Except Fault (List String) :=
  match (Json.parse? text).bind ofJson? with
  | none => .error (.config s!"Test script '{path}' must be a JSON array of strings")
  | some [] => .error (.config s!"Test script '{path}' contains no commands")
  | some lines => .ok lines

end PageScript.Script
