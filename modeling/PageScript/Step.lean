import PageScript.Action

/-!
# Steps

A step is an action in the queue of a run. Most steps are lines of the script and keep the text of their
line. The runner injects two kinds of its own: a delay between commands, and a check after a key press
that the focus is still somewhere. Injected steps leave no outcome.
-/
namespace PageScript

structure Step where
  /-- The line of the script, or the written form of an injected command. -/
  text : String
  command : Command
  action : Action
  /-- Whether the runner injected the step. -/
  synthetic : Bool
  deriving DecidableEq, Repr

namespace Step

def parse (line : String) : Except Fault Step := do
  let command ← Command.parse line
  let action ← Action.resolve command
  return ⟨line, command, action, false⟩

def inject (action : Action) : Step := ⟨action.command.render, action.command, action, true⟩

/-- The injected pause between two commands. -/
def delay (ms : Nat) : Step := inject (.wait ms)

/-- The injected check after the key press of `key`. -/
def focusCheck (key : String) : Step := inject (.checkFocus key)

def isReported (s : Step) : Bool := !s.synthetic && s.action.isReported

@[simp] theorem isReported_delay (ms : Nat) : (delay ms).isReported = false := rfl

@[simp] theorem isReported_focusCheck (key : String) : (focusCheck key).isReported = false := rfl

@[simp] theorem action_delay (ms : Nat) : (delay ms).action = .wait ms := rfl

@[simp] theorem action_focusCheck (key : String) : (focusCheck key).action = .checkFocus key := rfl

@[simp] theorem synthetic_delay (ms : Nat) : (delay ms).synthetic = true := rfl

@[simp] theorem synthetic_focusCheck (key : String) : (focusCheck key).synthetic = true := rfl

/-- A bound on the steps that a step leads to, itself included. A delay comes behind every step that is not
a wait, and a focus check with a delay of its own behind a key press. -/
def work (s : Step) : Nat :=
  match s.action with
  | .wait _ => 1
  | .keyPress _ => 4
  | _ => 2

def workAll : List Step → Nat
  | [] => 0
  | step :: steps => step.work + workAll steps

@[simp] theorem workAll_append (steps later : List Step) :
    workAll (steps ++ later) = workAll steps + workAll later := by
  induction steps with
  | nil => simp [workAll]
  | cons step steps ih => rw [List.cons_append, workAll, workAll, ih, Nat.add_assoc]

end Step

end PageScript
