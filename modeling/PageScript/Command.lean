import PageScript.Fault
import PageScript.Text.Blank

/-!
# Commands

A line of a script looks like a call, `name(argument,argument)`. The name is what stands before the
first opening bracket, the arguments what stands up to the first closing bracket after it, separated by
commas. Blanks around the name and the arguments do not count; commas and brackets inside an argument
cannot be written. A command is shown in the same form, without blanks.
-/
namespace PageScript

structure Command where
  name : String
  args : List String
  deriving DecidableEq, Repr

namespace Command

def render (c : Command) : String :=
  String.ofList (c.name.toList ++ '(' :: [','].intercalate (c.args.map String.toList) ++ [')'])

/-- The arguments written between the brackets; a blank text stands for no argument at all. -/
def argsOf (inner : List Char) : List (List Char) :=
  if Text.trim inner = [] then [] else (Text.splitWhere (· = ',') inner).map Text.trim

/-- The name and the arguments of a line, before it is known that there is a name. -/
def partsOf (line : List Char) : List Char × List (List Char) :=
  match Text.splitFirst '(' line with
  | none => (Text.trim line, [])
  | some (name, rest) => (Text.trim name, argsOf (rest.takeWhile (· ≠ ')')))

/-- Reads a line. Every line with a name is a command, of whatever name and number of arguments. -/
def parse (line : String) : Except Fault Command :=
  let parts := partsOf line.toList
  if parts.1 = [] then .error (.parse s!"missing command name in '{line}'")
  else .ok ⟨String.ofList parts.1, parts.2.map String.ofList⟩

end Command

end PageScript
