import PageScript.Report

/-!
# Recorders

A recorder takes down outcomes and delays from the moment it is started, and becomes a report when it is
stopped. One without outcomes leaves no report.
-/
namespace PageScript

structure Recorder where
  /-- When recording started, by the stopwatch. -/
  started : Nat
  outcomes : List Outcome := []
  /-- The exact sum of the injected delays, in milliseconds. -/
  delays : Nat := 0
  deriving DecidableEq, Repr, Inhabited

namespace Recorder

def record (r : Recorder) (o : Outcome) : Recorder := { r with outcomes := r.outcomes ++ [o] }

def recordDelay (r : Recorder) (ms : Nat) : Recorder := { r with delays := r.delays + ms }

def isEmpty (r : Recorder) : Bool := r.outcomes.isEmpty

/-- The report at the end of recording. Times are shown as numbers of 64 bits. -/
def finish (r : Recorder) (now : Nat) (incomplete : List String) (aborted : Option String) :
    Option Report :=
  if r.isEmpty then none
  else some {
    outcomes := r.outcomes
    incomplete
    aborted
    elapsed := (now - r.started) % Text.bound64
    elapsedWithoutDelays := (now - r.started - r.delays) % Text.bound64
    delays := r.delays % Text.bound64 }

end Recorder

end PageScript
