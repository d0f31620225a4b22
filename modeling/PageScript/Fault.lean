/-!
# Faults

What can go wrong in reading, checking and running a script, one constructor for each cause, and the
text shown for it. A host may answer any fault; only a lost focus ends a run by itself.
-/
namespace PageScript

inductive Fault where
  /-- No element matched the selector before the timeout, which is in milliseconds. -/
  | elementNotFound (selector : String) (timeout : Nat)
  | keyDispatchFailed (key reason : String)
  | unknownKeyGlyph (selector glyph : String)
  | assertionMismatch (selector expected actual : String)
  | focusLost (key : String)
  | unknownCommand (name : String)
  | invalidArguments (command reason : String)
  | parse (reason : String)
  /-- A fault in a line of a script; lines count from 1. -/
  | scriptLine (line : Nat) (cause : Fault)
  | invalidSelector (selector reason : String)
  | runFailed (failed incomplete : Nat)
  | driver (reason : String)
  | staleElement (node : Nat)
  | config (reason : String)
  | configParse (reason : String)
  | fileRead (path reason : String)
  | json (reason : String)
  | yaml (reason : String)
  | internal (reason : String)
  deriving DecidableEq, Repr

namespace Fault

def message : Fault → String
  | elementNotFound selector timeout => s!"Could not find {selector} after {timeout} ms"
  | keyDispatchFailed key reason => s!"Could not press {key}: {reason}"
  | unknownKeyGlyph selector glyph => s!"No on-screen key for '{glyph}' in {selector}"
  | assertionMismatch selector expected actual =>
    s!"Value in {selector} does not match {expected} (found '{actual}')"
  | focusLost key => s!"Focus lost after pressing {key}"
  | unknownCommand name =>
    s!"Unknown command '{name}'. Use 'uitest commands' to list available commands"
  | invalidArguments command reason => s!"Invalid arguments for '{command}': {reason}"
  | parse reason => s!"Parse error: {reason}"
  | scriptLine line cause => s!"Script line {line}: {cause.message}"
  | invalidSelector selector reason => s!"Invalid selector '{selector}': {reason}"
  | runFailed failed incomplete => s!"{failed} command(s) failed, {incomplete} not completed"
  | driver reason => s!"Driver error: {reason}"
  | staleElement node => s!"Element {node} no longer exists"
  | config reason => s!"Configuration error: {reason}"
  | configParse reason => s!"Invalid configuration file: {reason}"
  | fileRead path reason => s!"Failed to read file '{path}': {reason}"
  | json reason => s!"JSON error: {reason}"
  | yaml reason => s!"YAML error: {reason}"
  | internal reason => s!"Internal error: {reason}"

/-- Whether the fault ends a run; every other one is recorded and the run goes on. -/
def endsRun : Fault → Bool
  | focusLost _ => true
  | _ => false

@[simp] theorem endsRun_eq_true {f : Fault} : f.endsRun = true ↔ ∃ key, f = focusLost key := by
  cases f <;> simp [endsRun]

end Fault

section

variable {ε α β : Type} {x : Except ε α} {b : β} {fault : ε}

theorem map_eq_ok {f : α → β} : x.map f = .ok b ↔ ∃ a, x = .ok a ∧ f a = b := by
  cases x <;> simp [Except.map]

theorem bind_eq_ok {f : α → Except ε β} : (x >>= f) = .ok b ↔ ∃ a, x = .ok a ∧ f a = .ok b := by
  cases x <;> simp [bind, Except.bind]

theorem map_eq_error {f : α → β} : x.map f = .error fault ↔ x = .error fault := by
  cases x <;> simp [Except.map]

theorem bind_eq_error {f : α → Except ε β} :
    (x >>= f) = .error fault ↔ x = .error fault ∨ ∃ a, x = .ok a ∧ f a = .error fault := by
  cases x <;> simp [bind, Except.bind]

end

end PageScript
