import PageScript.Fault

/-!
# Hosts

What a run needs of the place where it runs. A host answers requests about a document, tells observers of
changes, and keeps the time. It is given by its state and by a function for each of these, and nothing is
assumed of them: a request may fail, now or always, and its answer may be any.
-/
namespace PageScript

/-- What can be asked of a host. Elements are spoken of by number. -/
inductive Request where
  /-- The first element that matches a selector. -/
  | query (selector : String)
  /-- All elements that match a selector, in document order. -/
  | queryAll (selector : String)
  /-- Click an element. -/
  | activate (node : Nat)
  | setValue (node : Nat) (text : String)
  | value (node : Nat)
  | classNames (node : Nat)
  /-- The elements of a tag below an element, in document order. -/
  | elementsByTag (node : Nat) (tag : String)
  | children (node : Nat)
  /-- The parent of an element, none for the root. -/
  | parent (node : Nat)
  | text (node : Nat)
  | attr (node : Nat) (name : String)
  /-- Send a key-down; the answer is whether the document lets it pass. -/
  | keyDown (code : Nat)
  | clearLocalStorage
  deriving DecidableEq, Repr

/-- What a host answers to a request that does not fail. -/
@[reducible] def Request.Reply : Request → Type
  | query _ => Option Nat
  | queryAll _ => List Nat
  | activate _ => Unit
  | setValue _ _ => Unit
  | value _ => String
  | classNames _ => List String
  | elementsByTag _ _ => List Nat
  | children _ => List Nat
  | parent _ => Option Nat
  | text _ => String
  | attr _ _ => Option String
  | keyDown _ => Bool
  | clearLocalStorage => Unit

/-- Something done with a host whose state is a `σ`. A fault keeps what was done before it. -/
abbrev Call (σ α : Type) := ExceptT Fault (StateM σ) α

/-- A connection to the changes of a document. -/
inductive Subscription where
  | live (observer : Nat)
  /-- Nothing will ever be heard of. -/
  | closed
  deriving DecidableEq, Repr

/-- A host whose state is a `σ`. Times are in milliseconds. -/
structure Host (σ : Type) where
  call : (r : Request) → σ → Except Fault r.Reply × σ
  /-- Connects an observer. -/
  observe : σ → Subscription × σ
  /-- Disconnects an observer. -/
  unobserve : Subscription → σ → σ
  /-- Waits for the next change for an observer up to an instant; answers whether there was one. -/
  nextChange : Subscription → Nat → σ → Bool × σ
  /-- A bound on the changes an observer can hear of while nothing is done. -/
  changesAhead : Subscription → σ → Nat
  /-- The present instant. -/
  now : σ → Nat
  /-- The instant that is some time ahead. -/
  ahead : Nat → σ → Nat
  /-- Goes to an instant. -/
  sleepUntil : Nat → σ → σ
  /-- The time shown by the stopwatch of reports. -/
  stopwatch : σ → Nat

namespace Host

variable {σ : Type} (host : Host σ)

def ask (r : Request) : Call σ r.Reply := host.call r

def sleep (ms : Nat) (s : σ) : σ := host.sleepUntil (host.ahead ms s) s

end Host

end PageScript
