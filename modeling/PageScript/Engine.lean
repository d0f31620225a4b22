import PageScript.Performing
import PageScript.Run

/-!
# The engine

Loads a script and runs it. Every line is checked before any is performed. Running takes one step after
another from the queue, performs it and settles its result, which may put injected steps in front of the
queue or give up all that is left. The steps performed are kept in a journal.
-/
namespace PageScript

/-- A step that was performed, with its result and the instants at which it began and ended. -/
structure Executed where
  step : Step
  result : Except Fault String
  began : Nat
  ended : Nat

structure Engine where
  run : Run
  stopOnFailure : Bool := false
  clearLocalStorage : Bool := false
  deriving Repr, Inhabited

/-- Checks the lines of a script, which are counted from a number on. -/
def Step.parseLines (first : Nat) : List String → Except Fault (List Step)
  | [] => .ok []
  | line :: lines =>
    match Step.parse line with
    | .error fault => .error (.scriptLine first fault)
    | .ok step => (parseLines (first + 1) lines).map (step :: ·)

namespace Engine

def ofSettings (s : Settings) : Engine where
  run := .ofSettings s
  stopOnFailure := s.stopOnFailure
  clearLocalStorage := s.clearLocalStorage

variable (e : Engine)

def phase : Phase := e.run.phase

/-- Checks a script and puts its steps into the queue; answers their number. The engine is loading while it checks,
and behind a script that it refuses it is idle again. -/
def load (lines : List String) : Except Fault Nat × Engine :=
  if e.phase ≠ .idle then
    (.error (.internal s!"cannot load a script while the run is {e.phase.word}"), e)
  else
    let loading := e.run.enter .loading
    match Step.parseLines 1 lines with
    | .error fault => (.error fault, { e with run := loading.enter .idle })
    | .ok steps =>
      let queue := loading.queue ++ steps
      (.ok queue.length, { e with run := { loading with queue } })

/-- A script that is refused changes nothing. -/
theorem load_of_refused {e : Engine} {lines : List String} {fault : Fault} (hp : e.phase = .idle)
    (hl : Step.parseLines 1 lines = .error fault) : e.load lines = (.error fault, e) := by
  have hidle : e.run = { e.run with phase := .idle } := by rw [← hp]; rfl
  simp only [load, hp, hl, Run.enter, ← hidle]
  rfl

variable {σ : Type} (host : Host σ)

def perform (strict : Bool) (step : Step) (r : Run) (s : σ) : Executed × Run × σ :=
  let (result, s') := step.action.perform host r.keyMap r.timeout s
  (⟨step, result, host.now s, host.now s'⟩,
    (r.react (host.stopwatch s') step.action).settle strict step result, s')

/-- Performing a step leaves less work than there was with it. -/
theorem work_perform (strict : Bool) (step : Step) (r : Run) (s : σ) :
    (perform host strict step r s).2.1.work < step.work + r.work := by
  let done := step.action.perform host r.keyMap r.timeout s
  have h := (r.react (host.stopwatch done.2) step.action).work_settle strict step done.1
  have hr : (r.react (host.stopwatch done.2) step.action).work = r.work := by
    rw [Run.react_eq]
    rfl
  rwa [hr] at h

/-- Performs the steps of the queue until it is empty or the run ends early. -/
def drain (strict : Bool) (r : Run) (s : σ) : List Executed × Run × σ :=
  match _ : r.queue with
  | [] => ([], r, s)
  | step :: queue =>
    let next := perform host strict step { r with queue } s
    if next.2.1.phase = .aborted then ([next.1], next.2)
    else
      let rest := drain strict next.2.1 next.2.2
      (next.1 :: rest.1, rest.2)
termination_by r.work
decreasing_by
  -- What is injected in front of the queue is less work than the step that was taken from it.
  rw [show r.work = step.work + ({ r with queue } : Run).work by
    simp [Run.work, Step.workAll, ‹r.queue = step :: queue›]]
  exact work_perform host strict step _ s

/-- Runs the loaded script. The answer is the report, if anything was recorded, and the journal. -/
def execute (s : σ) : Except Fault (Option Report × List Executed) × Engine × σ :=
  if e.phase ≠ .loading then
    (.error (.internal s!"cannot run while the run is {e.phase.word}"), e, s)
  else
    let start := (e.run.enter .running).beginReport (host.stopwatch s)
    let (journal, r, s) := drain host e.stopOnFailure start s
    let s := if e.clearLocalStorage then (host.call .clearLocalStorage s).2 else s
    let (report, r) := ((r.complete.finishReport (host.stopwatch s)).enter .reported).takeReport
    (.ok (report, journal), { e with run := r }, s)

end Engine

end PageScript
