import PageScript.Report.Recorder
import PageScript.Settings
import PageScript.Step

/-!
# Runs

The state of one run: the steps still to come, the lines given up, and what is recorded. A recorder may be
started and stopped any number of times; what was given up after the last report goes into that report.
-/
namespace PageScript

inductive Phase where
  | idle
  | loading
  | running
  | aborted
  | completed
  | reported
  deriving DecidableEq, Repr, Inhabited

def Phase.word : Phase → String
  | idle => "idle"
  | loading => "loading"
  | running => "running"
  | aborted => "aborted"
  | completed => "completed"
  | reported => "reported"

structure Run where
  /-- The code of each key name. -/
  keyMap : List (String × Nat) := []
  /-- How long elements are waited for, in milliseconds. -/
  timeout : Nat
  /-- The injected delay between commands, in milliseconds; zero for none. -/
  delay : Nat := 0
  queue : List Step := []
  incomplete : List String := []
  phase : Phase := .idle
  /-- Why the run ended early, if it did. -/
  aborted : Option String := none
  recorder : Option Recorder := none
  report : Option Report := none
  deriving Repr, Inhabited

namespace Run

def ofSettings (s : Settings) : Run where
  keyMap := s.keyMap
  timeout := s.timeout
  delay := s.delayBetween

variable (r : Run)

def enter (phase : Phase) : Run := { r with phase }

/-- A run that nothing has ended is complete. -/
def complete : Run := if r.phase = .running then r.enter .completed else r

def isReporting : Bool := r.recorder.isSome

/-- Starts a new recorder; what the old one has taken down is dropped. -/
def beginReport (now : Nat) : Run := { r with recorder := some { started := now } }

def record (o : Outcome) : Run := { r with recorder := r.recorder.map (·.record o) }

def recordDelay (ms : Nat) : Run := { r with recorder := r.recorder.map (·.recordDelay ms) }

/-- Gives up all steps still to come and ends the run. -/
def abandon (reason : String) : Run :=
  { r with
    incomplete := r.incomplete ++ r.queue.map Step.text
    queue := []
    aborted := some reason
    phase := .aborted }

/-- Stops the recorder and keeps its report, with the lines given up so far. Without a recorder these lines
go to the report there is. -/
def finishReport (now : Nat) : Run :=
  match r.recorder with
  | some recorder =>
    { r with report := recorder.finish now r.incomplete r.aborted, recorder := none, incomplete := [] }
  | none =>
    { r with
      report := r.report.map fun report =>
        { report with
          incomplete := report.incomplete ++ r.incomplete
          aborted := report.aborted.or r.aborted }
      incomplete := [] }

theorem finishReport_enter (now : Nat) (phase : Phase) :
    (r.enter phase).finishReport now = (r.finishReport now).enter phase := by
  unfold finishReport enter
  cases r.recorder <;> rfl

theorem finishReport_complete (now : Nat) (phase : Phase) :
    (r.complete.finishReport now).enter phase = (r.finishReport now).enter phase := by
  unfold complete
  split
  · rw [finishReport_enter]
    rfl
  · rfl

def takeReport : Option Report × Run := (r.report, { r with report := none })

/-- What performing an action does to the recording. -/
def react (now : Nat) : Action → Run
  | .beaconStart => r.beginReport now
  | .generateReport => r.finishReport now
  | _ => r

/-- Takes down how a step went. -/
def note (step : Step) (result : Except Fault String) : Run :=
  let r :=
    if step.isReported then
      r.record <| match result with
        | .ok message => ⟨true, message, step.text⟩
        | .error fault => ⟨false, s!"[{step.action.name}] {fault.message}", step.text⟩
    else r
  match step.synthetic, step.action with
  | true, .wait ms => r.recordDelay ms
  | _, _ => r

/-- The steps that are injected behind a step: the delay, unless the step is a wait itself, and then the
focus check of a key press. -/
def injected (step : Step) : List Step :=
  (if step.action.isWait ∨ r.delay = 0 then [] else [Step.delay r.delay]) ++
  match step.action with
  | .keyPress key => [Step.focusCheck key]
  | _ => []

/-- Why the run ends with a step, if it does: the focus is lost, or a command failed and none may. -/
def reasonToStop (strict : Bool) (step : Step) : Except Fault String → Option String
  | .ok _ => none
  | .error fault =>
    if fault.endsRun then some fault.message
    else if strict && step.isReported then some s!"Stopped after failure of {step.text}"
    else none

def settle (strict : Bool) (step : Step) (result : Except Fault String) : Run :=
  let r := r.note step result
  match reasonToStop strict step result with
  | some reason => r.abandon reason
  | none => { r with queue := r.injected step ++ r.queue }

/-! ## What a step changes -/

/-- Performing an action touches the recording only. -/
theorem react_eq (now : Nat) (a : Action) :
    r.react now a =
      { r with
        recorder := (r.react now a).recorder
        report := (r.react now a).report
        incomplete := (r.react now a).incomplete } := by
  cases a with
  | generateReport =>
    simp only [react, finishReport]
    split <;> rfl
  | _ => rfl

/-- Taking down how a step went touches the recorder only. -/
theorem note_eq (step : Step) (result : Except Fault String) :
    r.note step result = { r with recorder := (r.note step result).recorder } := by
  unfold note
  dsimp only
  split <;> split <;> rfl

variable {r} {strict : Bool} {step : Step} {result : Except Fault String}

theorem settle_of_stop {reason : String} (h : reasonToStop strict step result = some reason) :
    r.settle strict step result = (r.note step result).abandon reason := by
  simp only [settle, h]

theorem settle_of_continue (h : reasonToStop strict step result = none) :
    r.settle strict step result =
      { r.note step result with queue := r.injected step ++ r.queue } := by
  simp only [settle, h]
  rw [note_eq]
  rfl

/-! ## The work ahead -/

/-- A bound on the steps still to be performed, injected ones included. -/
def work (r : Run) : Nat := Step.workAll r.queue

theorem work_injected (r : Run) (step : Step) : Step.workAll (r.injected step) < step.work := by
  cases h : step.action <;> by_cases hd : r.delay = 0 <;>
    simp [injected, Step.workAll, Step.work, Action.isWait, h, hd]

/-- A step leads to less work than it was itself. -/
theorem work_settle (r : Run) (strict : Bool) (step : Step) (result : Except Fault String) :
    (r.settle strict step result).work < step.work + r.work := by
  have h := work_injected r step
  cases hs : reasonToStop strict step result with
  | some reason =>
    rw [settle_of_stop hs]
    simp only [work, abandon, Step.workAll]
    omega
  | none =>
    rw [settle_of_continue hs]
    simp only [work, Step.workAll_append]
    omega

end Run

end PageScript
