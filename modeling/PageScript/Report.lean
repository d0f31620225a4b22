import PageScript.Json
import PageScript.Text.Numeral
import PageScript.Text.Styled

/-!
# Reports

What is left of a run: an outcome for every reported command, the lines it did not come to, why it ended
early if it did, and how long it took. A report is a success if nothing failed and nothing is missing.
-/
namespace PageScript

structure Outcome where
  succeeded : Bool
  message : String
  /-- The line of the script. -/
  command : String
  deriving DecidableEq, Repr, Inhabited

structure Report where
  /-- Outcomes in the order in which the commands ran. -/
  outcomes : List Outcome
  /-- Lines that were left out. -/
  incomplete : List String := []
  /-- Why the run ended early, if it did. -/
  aborted : Option String := none
  /-- Milliseconds from the start of recording to the end. -/
  elapsed : Nat := 0
  /-- The same without the injected delays. -/
  elapsedWithoutDelays : Nat := 0
  /-- The sum of the injected delays. -/
  delays : Nat := 0
  deriving DecidableEq, Repr, Inhabited

namespace Report

variable (r : Report)

def passed : List Outcome := r.outcomes.filter (·.succeeded)

def failed : List Outcome := r.outcomes.filter (!·.succeeded)

def isSuccess : Bool := r.failed.isEmpty && r.incomplete.isEmpty && r.aborted.isNone

/-- Milliseconds in seconds, rounded up. -/
def seconds (ms : Nat) : Nat := (ms + 999) / 1000

def incompleteHeading : String :=
  match r.aborted with
  | some reason => s!"Unable to complete the following tests ({reason})"
  | none => "Unable to complete the following tests"

/-- The first lines: the times and how many passed and failed. -/
def summary (colours : Bool) : List String :=
  let failures := s!"{r.failed.length} tests failed"
  [Text.Style.paint colours { bold := true } "Testing Report",
    s!"Finished in {seconds r.elapsed}s ({seconds r.elapsedWithoutDelays}s without added delays)",
    Text.Style.paint colours { colour := some .green } s!"{r.passed.length} tests passed",
    if r.failed.isEmpty then failures else Text.Style.paint colours { colour := some .red } failures]

/-- The messages of what failed, if anything did. -/
def failures (colours : Bool) : List String :=
  if r.failed.isEmpty then []
  else
    let mark := Text.Style.paint colours { colour := some .red } "✗"
    "" :: Text.Style.paint colours { bold := true, colour := some .red } "Failed tests" ::
      r.failed.map fun o => s!"  {mark} {o.message}"

/-- The lines that were left out, if there are any. -/
def missing (colours : Bool) : List String :=
  if r.incomplete.isEmpty then []
  else
    "" :: Text.Style.paint colours { bold := true, colour := some .yellow } r.incompleteHeading ::
      r.incomplete.map fun line => "  " ++ Text.Style.paint colours { dimmed := true } line

def render (colours : Bool) : String :=
  Text.unlines (r.summary colours ++ r.failures colours ++ r.missing colours)

end Report

def Outcome.toJson (o : Outcome) : Json :=
  .ofFields [("succeeded", .bool o.succeeded), ("message", .ofString o.message),
    ("command", .ofString o.command)]

/-- The report as data. The reason of an early end is there only if there is one. -/
def Report.toJson (r : Report) : Json :=
  .ofFields <|
    [("outcomes", .array (r.outcomes.map Outcome.toJson)), ("incomplete", .ofStrings r.incomplete)] ++
    (r.aborted.map fun reason => ("aborted", Json.ofString reason)).toList ++
    [("elapsed_ms", .ofNat r.elapsed), ("elapsed_without_delays_ms", .ofNat r.elapsedWithoutDelays),
      ("delays_ms", .ofNat r.delays)]

end PageScript
