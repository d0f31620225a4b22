import PageScript.Command
import PageScript.Verb
import PageScript.Text.Numeral

/-!
# Actions

An action is a command that has been checked against the table of verbs: its name is known, it has as
many arguments as its verb takes, and a number of milliseconds is a number. Scripts are checked line by
line before anything runs.
-/
namespace PageScript

inductive Action where
  | waitForElement (selector : String)
  | click (selector : String)
  | type (selector text : String)
  | typeWithKeyboard (selector text : String)
  | keyPress (key : String)
  | assertEquals (selector expected : String)
  | wait (ms : Nat)
  | checkFocus (key : String)
  | beaconStart
  | generateReport
  deriving DecidableEq, Repr

namespace Action

def verb : Action → Verb
  | waitForElement _ => .waitForElement
  | click _ => .click
  | type _ _ => .type
  | typeWithKeyboard _ _ => .typeWithKeyboard
  | keyPress _ => .keyPress
  | assertEquals _ _ => .assertEquals
  | wait _ => .wait
  | checkFocus _ => .checkFocus
  | beaconStart => .beaconStart
  | generateReport => .generateReport

/-- The canonical name, which is never an alias. -/
def name (a : Action) : String := a.verb.name

/-- The arguments as texts, a number of milliseconds in decimal. -/
def args : Action → List String
  | waitForElement selector => [selector]
  | click selector => [selector]
  | type selector text => [selector, text]
  | typeWithKeyboard selector text => [selector, text]
  | keyPress key => [key]
  | assertEquals selector expected => [selector, expected]
  | wait ms => [toString ms]
  | checkFocus key => [key]
  | beaconStart => []
  | generateReport => []

def command (a : Action) : Command := ⟨a.name, a.args⟩

def isReported (a : Action) : Bool := a.verb.info.reported

def isWait : Action → Bool
  | wait _ => true
  | _ => false

/-- The action of a verb with the right number of arguments. The last case is for any other number, which
`resolve` refuses before it comes here. -/
def ofVerb : Verb → List String → Except Fault Action
  | .waitForElement, [selector] => .ok (.waitForElement selector)
  | .click, [selector] => .ok (.click selector)
  | .type, [selector, text] => .ok (.type selector text)
  | .typeWithKeyboard, [selector, text] => .ok (.typeWithKeyboard selector text)
  | .keyPress, [key] => .ok (.keyPress key)
  | .assertEquals, [selector, expected] => .ok (.assertEquals selector expected)
  | .wait, [ms] =>
    match Text.natural64? ms.toList with
    | some n => .ok (.wait n)
    | none => .error (.invalidArguments Verb.wait.name s!"'{ms}' is not a number of milliseconds")
  | .checkFocus, [key] => .ok (.checkFocus key)
  | .beaconStart, [] => .ok .beaconStart
  | .generateReport, [] => .ok .generateReport
  | verb, _ => .error (.internal s!"unhandled command '{verb.name}'")

def wrongCount (params : List String) (count : Nat) : String :=
  let expected := ", ".intercalate params
  s!"expected {params.length} argument(s) ({expected}), got {count}"

/-- Checks a command against the table. A wrong name is found before a wrong number of arguments, and that
before a wrong number of milliseconds. -/
def resolve (c : Command) : Except Fault Action :=
  match Verb.find? c.name with
  | none => .error (.unknownCommand c.name)
  | some verb =>
    if c.args.length ≠ verb.info.params.length then
      .error (.invalidArguments verb.name (wrongCount verb.info.params c.args.length))
    else ofVerb verb c.args

end Action

end PageScript
