import PageScript.Host

/-!
# Waiting for elements

An element is looked up with a deadline: at once, and again at every change until the time is up. The
observer is connected before the first look, so that no change falls between the two, and disconnected
whatever the outcome.
-/
namespace PageScript.Host

variable {σ : Type} (host : Host σ)

/-- Looks again at every change until an instant; none if nothing was found by then. The number bounds the
changes that are waited for. -/
def watch (subscription : Subscription) (selector : String) (deadline : Nat) : Nat → Call σ (Option Nat)
  | 0 => fun s => (.ok none, host.sleepUntil deadline s)
  | changes + 1 => fun s =>
    match host.nextChange subscription deadline s with
    | (false, s) => (.ok none, s)
    | (true, s) =>
      match host.call (.query selector) s with
      | (.ok none, s) => watch subscription selector deadline changes s
      | answer => answer

/-- Looks at once and then at every change until the time is up. -/
def search (subscription : Subscription) (selector : String) (timeout : Nat) : Call σ Nat := fun s =>
  match host.call (.query selector) s with
  | (.error fault, s) => (.error fault, s)
  | (.ok (some node), s) => (.ok node, s)
  | (.ok none, s) =>
    match host.watch subscription selector (host.ahead timeout s) (host.changesAhead subscription s) s with
    | (.error fault, s) => (.error fault, s)
    | (.ok (some node), s) => (.ok node, s)
    | (.ok none, s) => (.error (.elementNotFound selector timeout), s)

/-- The first element to match a selector, which may take until a timeout. -/
def await (selector : String) (timeout : Nat) : Call σ Nat := fun s =>
  let (subscription, s) := host.observe s
  let (found, s) := host.search subscription selector timeout s
  (found, host.unobserve subscription s)

end PageScript.Host
