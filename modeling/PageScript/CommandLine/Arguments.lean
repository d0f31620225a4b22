/-!
# Arguments

Taking the arguments of a command apart into options and operands. An option is given by its name behind two
dashes or by its letter behind one; its value follows behind an equals sign, right behind the letter, or as
the next argument. Behind two dashes alone there are operands only. Every option is given once at most, and
no value is empty.
-/
namespace PageScript

structure Flag where
  name : String
  letter : Option Char := none
  /-- Whether the option has a value. -/
  valued : Bool := true
  deriving DecidableEq, Repr

structure Arguments where
  /-- The values of the options that have one, by name. -/
  values : List (String × String) := []
  /-- The options without a value. -/
  switches : List String := []
  operands : List String := []
  deriving DecidableEq, Repr

namespace Arguments

inductive Shape where
  /-- Two dashes alone. -/
  | dashes
  | operand
  /-- An option by its name or letter, and the value written with it. -/
  | named (name : String) (value : Option String)
  | lettered (letter : Char) (value : Option String)
  deriving DecidableEq, Repr

/-- The value behind an equals sign. -/
def attached : List Char → Option String
  | '=' :: value => some (String.ofList value)
  | _ => none

def Shape.ofText (argument : String) : Shape :=
  match argument.toList with
  | ['-', '-'] => dashes
  | '-' :: '-' :: s =>
    named (String.ofList (s.takeWhile (· ≠ '='))) (attached (s.dropWhile (· ≠ '=')))
  | ['-', letter] => lettered letter none
  | '-' :: letter :: '=' :: value => lettered letter (some (String.ofList value))
  | '-' :: letter :: value => lettered letter (some (String.ofList value))
  | _ => operand

/-- The option that a shape is, and the value written with it. -/
def Shape.flag? (flags : List Flag) : Shape → Option (Flag × Option String)
  | named name value => (flags.find? (·.name = name)).map (·, value)
  | lettered letter value => (flags.find? (·.letter = some letter)).map (·, value)
  | _ => none

/-- Whether an argument may be the value of the option before it. A single dash may. -/
def isValue (argument : String) : Bool := argument == "-" || argument.toList.head? != some '-'

def give (name value : String) (a : Arguments) : Arguments := { a with values := (name, value) :: a.values }

/-- Takes arguments apart, of which the first is the value of an option that waits for one. -/
def parts (flags : List Flag) : Option String → List String → Option Arguments
  | none, [] => some {}
  | some _, [] => none
  | some name, argument :: arguments =>
    if isValue argument then (parts flags none arguments).map (give name argument) else none
  | none, argument :: arguments =>
    match Shape.ofText argument with
    | .dashes => some { operands := arguments }
    | .operand =>
      (parts flags none arguments).map fun a => { a with operands := argument :: a.operands }
    | shape =>
      match shape.flag? flags with
      | some (flag, none) =>
        if flag.valued then parts flags (some flag.name) arguments
        else
          (parts flags none arguments).map fun a => { a with switches := flag.name :: a.switches }
      | some (flag, some value) =>
        if flag.valued then (parts flags none arguments).map (give flag.name value) else none
      | none => none

def isProper (a : Arguments) : Bool :=
  decide (a.values.map Prod.fst).Nodup && decide a.switches.Nodup && a.values.all (·.2 ≠ "") &&
    a.operands.all (· ≠ "")

/-- Takes the arguments of a command with some options apart. -/
def parse (flags : List Flag) (arguments : List String) : Option Arguments :=
  (parts flags none arguments).filter isProper

def value? (a : Arguments) (name : String) : Option String := a.values.lookup name

def has (a : Arguments) (name : String) : Bool := a.switches.contains name

end Arguments

end PageScript
