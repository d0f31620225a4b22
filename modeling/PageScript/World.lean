import PageScript.Document
import PageScript.Assoc

/-!
# Worlds

A world is a document in time: a clock of milliseconds, the effects that wait for their instant, and the
observers that are told of every change. Nothing takes time but waiting, and while something waits the
clock goes from one due effect to the next. Effects due at the same instant have all happened before anybody
reads of one. An effect due at the very end of a wait happens after it. No wait is longer than the clock allows, which
is thirty years unless a world says otherwise.

An observer has 64 places for what it has not read yet. When more has arrived, the oldest is lost, and the
loss is read as one change before the last 64.
-/
namespace PageScript

structure Pending where
  due : Nat
  effect : Effect
  deriving Repr, BEq, Inhabited

structure Observer where
  id : Nat
  unread : Nat := 0
  deriving Repr, DecidableEq, Inhabited

namespace Observer

/-- How many changes an observer can keep. -/
def capacity : Nat := 64

def read (o : Observer) : Observer :=
  { o with unread := if capacity < o.unread then capacity else o.unread - 1 }

def reads (o : Observer) : Nat := if capacity < o.unread then capacity + 1 else o.unread

end Observer

/-- Thirty years of 365 days in milliseconds. -/
def thirtyYears : Nat := 30 * 365 * 86400 * 1000

structure World where
  document : Document := {}
  now : Nat := 0
  /-- What is still to happen, in order of time; of two effects due at once the older one comes first. -/
  pending : List Pending := []
  observers : List Observer := []
  nextObserver : Nat := 0
  /-- Whether the document is closed, so that nobody can ask anything of it any more. -/
  closed : Bool := false
  /-- Whether the stopwatch of reports follows the clock. Without it a run takes no time. -/
  timed : Bool := false
  /-- How far ahead the clock can be set. A longer wait is cut to this. -/
  longestWait : Nat := thirtyYears
  deriving Repr, BEq, Inhabited

namespace World

def ofPage (p : Page) : World := { document := .ofPage p }

variable (w : World)

/-- The instant some time ahead. -/
def ahead (delay : Nat) : Nat := w.now + min delay w.longestWait

theorem now_le_ahead (delay : Nat) : w.now ≤ w.ahead delay := Nat.le_add_right _ _

theorem ahead_of_le {delay : Nat} (h : delay ≤ w.longestWait) : w.ahead delay = w.now + delay := by
  rw [ahead, Nat.min_eq_left h]

def notify (d : Document) : World :=
  { w with document := d, observers := w.observers.map fun o => { o with unread := o.unread + 1 } }

def apply (e : Effect) : Except Fault World :=
  (w.document.apply e).map fun
    | some d => w.notify d
    | none => w

def schedule (e : Effect) : World :=
  let due := w.ahead e.delay
  { w with
    pending := w.pending.takeWhile (·.due ≤ due) ++ ⟨due, e⟩ :: w.pending.dropWhile (·.due ≤ due) }

/-- Applies an effect, or schedules it when it has a delay. -/
def trigger (e : Effect) : Except Fault World :=
  if e.delay = 0 then w.apply e else .ok (w.schedule e)

/-- Triggers effects one after another. The first that fails is the last one tried. -/
def triggerAll (w : World) : List Effect → Except Fault Unit × World
  | [] => (.ok (), w)
  | e :: es =>
    match w.trigger e with
    | .ok w => triggerAll w es
    | .error fault => (.error fault, w)

def happen (p : Pending) : World :=
  let w := { w with now := max w.now p.due }
  match w.apply p.effect with
  | .ok w => w
  | .error _ => w

/-- Lets pending effects happen while they are due before an instant, and goes to it. -/
def runUntil (deadline : Nat) (w : World) : List Pending → World
  | [] => { w with pending := [], now := max w.now deadline }
  | p :: ps =>
    if p.due < deadline then runUntil deadline (w.happen p) ps
    else { w with pending := p :: ps, now := max w.now deadline }

def sleepUntil (deadline : Nat) : World := runUntil deadline w w.pending

/-- Changes that an observer has not read; an unknown observer has none. -/
def unread (id : Nat) : Nat := ((w.observers.find? (·.id == id)).map Observer.unread).getD 0

def read (id : Nat) : World :=
  { w with observers := w.observers.map fun o => if o.id = id then o.read else o }

/-- Waits for a change that an observer can read, up to an instant; answers whether there was one. Effects
that are due by then happen before the observer reads, and later ones only if it has nothing to read. -/
def changeUntil (id deadline : Nat) (w : World) : List Pending → Bool × World
  | [] =>
    if 0 < w.unread id then (true, { w with pending := [] }.read id)
    else (false, { w with pending := [], now := max w.now deadline })
  | p :: ps =>
    if p.due < deadline ∧ (p.due ≤ w.now ∨ w.unread id = 0) then changeUntil id deadline (w.happen p) ps
    else if 0 < w.unread id then (true, { w with pending := p :: ps }.read id)
    else (false, { w with pending := p :: ps, now := max w.now deadline })

def nextChange (id deadline : Nat) : Bool × World := changeUntil id deadline w w.pending

/-- A bound on the changes an observer can still read while nothing new is scheduled. -/
def changesAhead (id : Nat) : Nat := w.unread id + w.pending.length

/-- Connects a new observer, which has nothing to read yet. -/
def observe : Nat × World :=
  (w.nextObserver,
    { w with observers := w.observers ++ [{ id := w.nextObserver }], nextObserver := w.nextObserver + 1 })

def unobserve (id : Nat) : World := { w with observers := w.observers.filter (·.id ≠ id) }

/-- Reads everything there is for an observer; answers the number of reads. -/
def drain (id : Nat) : Nat × World :=
  (((w.observers.find? (·.id == id)).map Observer.reads).getD 0,
    { w with observers := w.observers.map fun o => if o.id = id then { o with unread := 0 } else o })

def close : World := { w with closed := true }

/-- Whether observers will hear of no change any more. An effect that is still to happen keeps a closed
document. -/
def isOver : Bool := w.closed && w.pending.isEmpty

/-- What asking for the next change comes to at once for an observer: a change that it reads, or that there will be
none any more. Nothing is said if it has to wait. -/
def changed (id : Nat) : Option Bool × World :=
  if 0 < w.unread id then (some true, w.read id) else (if w.isOver then some false else none, w)

def activate (number : Nat) : Except Fault Unit × World :=
  match w.document.activate number with
  | .error fault => (.error fault, w)
  | .ok (effects, d) => { w with document := d }.triggerAll effects

/-- Sends a key-down; answers whether the page lets it pass. -/
def keyDown (code : Nat) : Except Fault Bool × World :=
  let (effects, d) := w.document.keyDown code
  match { w with document := d }.triggerAll effects with
  | (.ok _, w) => (.ok (!d.preventDefault.contains code), w)
  | (.error fault, w) => (.error fault, w)

def setValue (number : Nat) (value : String) : Except Fault Unit × World :=
  match w.document.setValue number value with
  | .ok d => (.ok (), w.notify d)
  | .error fault => (.error fault, w)

def append (selector : String) (element : Element) : Except Fault Nat × World :=
  match w.document.append selector element with
  | .ok (number, d) => (.ok number, w.notify d)
  | .error fault => (.error fault, w)

def clearLocalStorage : World := { w with document := w.document.clearLocalStorage }

end World

end PageScript
