import PageScript.CommandLine.Arguments

/-!
# Invocations

What the program can be asked for: running a script against a page, checking a script, and listing the
commands that scripts may use.
-/
namespace PageScript

inductive Invocation where
  /-- Runs the script at a path, or the one that the settings name. -/
  | run (settings page : String) (script : Option String) (json : Bool)
  | check (script : String)
  | commands (json : Bool)
  deriving DecidableEq, Repr

namespace Invocation

def defaultSettings : String := "tests/testingLib.config.json"

/-- Shows the answer as data. -/
def jsonFlag : Flag := { name := "json", valued := false }

def runFlags : List Flag :=
  [{ name := "config", letter := some 'c' }, { name := "page", letter := some 'p' }, { name := "script" },
    jsonFlag]

def parse : List String → Option Invocation
  | "run" :: arguments => do
    let a ← Arguments.parse runFlags arguments
    guard a.operands.isEmpty
    return .run ((a.value? "config").getD defaultSettings) (← a.value? "page") (a.value? "script")
      (a.has "json")
  | "check" :: arguments => do
    let a ← Arguments.parse [] arguments
    let [script] := a.operands | none
    return .check script
  | "commands" :: arguments => do
    let a ← Arguments.parse [jsonFlag] arguments
    guard a.operands.isEmpty
    return .commands (a.has "json")
  | _ => none

end Invocation

end PageScript
