import PageScript.Host
import PageScript.Assoc

/-!
# Faulty hosts

A host that works at first and then no more, operation by operation, so that a run can be tried against
failures anywhere. A request of an operation that no longer works does not reach the host behind it. An
observer made too late is closed from the start. Elements may be made to have no parents, and then asking for
a parent never fails.
-/
namespace PageScript

/-- The kinds of things a host does that can be made to fail. -/
inductive Operation where
  | query
  | queryAll
  | activate
  | setValue
  | value
  | classNames
  | elementsByTag
  | children
  | parent
  | text
  | attr
  | keyDown
  | clearLocalStorage
  | observe
  deriving DecidableEq, Repr, Inhabited

def Request.operation : Request → Operation
  | query _ => .query
  | queryAll _ => .queryAll
  | activate _ => .activate
  | setValue _ _ => .setValue
  | value _ => .value
  | classNames _ => .classNames
  | elementsByTag _ _ => .elementsByTag
  | children _ => .children
  | parent _ => .parent
  | text _ => .text
  | attr _ _ => .attr
  | keyDown _ => .keyDown
  | clearLocalStorage => .clearLocalStorage

/-- What is wrong with an operation: how many times it still works, and what is said after that. -/
structure Failing where
  message : String
  after : Nat
  deriving DecidableEq, Repr

/-- All that is wrong with a host. -/
structure Failures where
  failing : List (Operation × Failing) := []
  /-- Whether no element seems to have a parent. -/
  orphans : Bool := false
  deriving DecidableEq, Repr

/-- A host's state with a count of the uses of each operation. -/
structure Counted (σ : Type) where
  state : σ
  uses : List (Operation × Nat) := []

namespace Counted

variable {σ : Type} (c : Counted σ)

def count (op : Operation) : Nat := (c.uses.lookup op).getD 0

def use (op : Operation) : Counted σ := { c with uses := Assoc.put op (c.count op + 1) c.uses }

end Counted

namespace Failures

/-- What a use of an operation fails with after a number of earlier ones, if it fails. -/
def messageAfter (f : Failures) (op : Operation) (earlier : Nat) : Option String :=
  match f.failing.lookup op with
  | some failing => if failing.after ≤ earlier then some failing.message else none
  | none => none

variable {σ : Type}

/-- What a faulty host answers to a request: no parent, a failure, or what the host behind it answers. -/
def answer (f : Failures) (host : Host σ) (r : Request) (c : Counted σ) :
    Except Fault r.Reply × Counted σ :=
  let used := c.use r.operation
  match r, f.orphans with
  | .parent _, true => (.ok none, used)
  | r, _ =>
    match f.messageAfter r.operation (c.count r.operation) with
    | some message => (.error (.driver message), used)
    | none =>
      let (answer, state) := host.call r c.state
      (answer, { used with state })

def apply (f : Failures) (host : Host σ) : Host (Counted σ) where
  call := f.answer host
  observe c :=
    let used := c.use .observe
    match f.messageAfter .observe (c.count .observe) with
    | some _ => (.closed, used)
    | none =>
      let (subscription, state) := host.observe c.state
      (subscription, { used with state })
  unobserve subscription c := { c with state := host.unobserve subscription c.state }
  nextChange subscription deadline c :=
    let (changed, state) := host.nextChange subscription deadline c.state
    (changed, { c with state })
  changesAhead subscription c := host.changesAhead subscription c.state
  now c := host.now c.state
  ahead ms c := host.ahead ms c.state
  sleepUntil deadline c := { c with state := host.sleepUntil deadline c.state }
  stopwatch c := host.stopwatch c.state

end Failures

end PageScript
