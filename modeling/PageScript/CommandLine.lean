import PageScript.CommandLine.Invocation
import PageScript.Engine
import PageScript.Host.Simulated
import PageScript.Json.Printer
import PageScript.Page.Reader
import PageScript.Settings.Script
import PageScript.Text.Printable

/-!
# The command line

Answers an invocation by a text and a result. Files are read by a function that is given. A run answers with
its report, and fails if the report is no success.
-/
namespace PageScript

structure Answer where
  /-- What is printed, up to the fault if there is one. -/
  output : String := ""
  result : Except Fault Unit
  /-- How long the run took, in milliseconds. -/
  duration : Nat := 0

namespace CommandLine

variable (colours : Bool)

/-! ## Running -/

def runLines (settings : Settings) (page : Page) (timed : Bool) (lines : List String) :
    Except Fault (Option Report × List Executed) × World :=
  let world := { World.ofPage page with timed }
  let (loaded, engine) := (Engine.ofSettings settings).load lines
  match loaded with
  | .error fault => (.error fault, world)
  | .ok _ =>
    let (result, _, world) := engine.execute World.host world
    (result, world)

def reportText (json : Bool) : Option Report → String
  | none =>
    if json then (Json.ofFields [("status", .ofString "empty")]).compact
    else Text.Style.paint colours { dimmed := true } "No commands were reported"
  | some report => if json then report.toJson.pretty 0 else report.render colours

def reportResult : Option Report → Except Fault Unit
  | none => .ok ()
  | some report =>
    if report.isSuccess then .ok () else .error (.runFailed report.failed.length report.incomplete.length)

def runAnswer (json : Bool) : Except Fault (Option Report × List Executed) × World → Answer
  | (.error fault, world) => { result := .error fault, duration := world.now }
  | (.ok (report, _), world) =>
    { output := reportText colours json report ++ "\n"
      result := reportResult report
      duration := world.now }

/-! ## Checking -/

/-- What is printed for a line that is accepted. -/
def checked (number : Nat) (step : Step) : String :=
  let mark := Text.Style.paint colours { colour := some .green } "✓"
  let args := ", ".intercalate (step.command.args.map Text.quoted)
  s!"  {mark} {Text.padLeft 3 (toString number)}: {step.action.name} [" ++
    Text.Style.paint colours { dimmed := true } args ++ "]"

/-- What is printed for lines that are counted from a number on, up to the first one that is refused. -/
def checkLines (number : Nat) : List String → List String × Except Fault Unit
  | [] => ([], .ok ())
  | line :: lines =>
    match Step.parse line with
    | .error fault => ([], .error (.scriptLine number fault))
    | .ok step =>
      let (printed, result) := checkLines (number + 1) lines
      (checked colours number step :: printed, result)

def valid (count : Nat) : String :=
  "\n" ++ Text.Style.paint colours { bold := true, colour := some .green } "Valid:" ++ s!" {count} commands"

def checkAnswer (lines : List String) : Answer :=
  match checkLines colours 1 lines with
  | (printed, .ok ()) =>
    { output := Text.unlines (printed ++ [valid colours lines.length]), result := .ok () }
  | (printed, .error fault) => { output := Text.unlines printed, result := .error fault }

/-! ## Listing -/

def notes (info : Verb.Info) : List String :=
  (if info.aliases.isEmpty then [] else ["alias: " ++ ", ".intercalate info.aliases]) ++
  (if info.reported then [] else ["not reported"]) ++
  (if info.synthetic then ["injected by the runner"] else [])

def listed (info : Verb.Info) : String :=
  let signature := info.name ++ "(" ++ ", ".intercalate info.params ++ ")"
  let painted := Text.Style.paint colours { bold := true } (Text.padRight 34 signature)
  let line := s!"  {painted} {info.description}"
  let notes := notes info
  if notes.isEmpty then line
  else line ++ " " ++ Text.Style.paint colours { dimmed := true } ("(" ++ "; ".intercalate notes ++ ")")

def verbJson (info : Verb.Info) : Json :=
  .ofFields [("aliases", .ofStrings info.aliases), ("args", .ofStrings info.params),
    ("description", .ofString info.description), ("name", .ofString info.name),
    ("reported", .bool info.reported), ("synthetic", .bool info.synthetic)]

def listing (json : Bool) : String :=
  let infos := Verb.all.map Verb.info
  if json then (Json.array (infos.map verbJson)).pretty 0 ++ "\n"
  else Text.unlines (infos.map (listed colours))

/-! ## All of it -/

variable {m : Type → Type} [Monad m] (read : String → m (Except Fault String))

/-- Reads what a run needs: settings, the script, and the page. -/
def prepare (settingsPath pagePath : String) (script : Option String) :
    ExceptT Fault m (Settings × List String × Page) := do
  let settings ← ExceptT.mk (Settings.load read settingsPath)
  let lines ← ExceptT.mk (Script.load read (script.getD settings.scriptPath))
  let page ← ExceptT.mk (Page.load read pagePath)
  return (settings, lines, page)

/-- Answers an invocation. A run is timed by its own clock or not at all. -/
def answer (timed : Bool) : Invocation → m Answer
  | .run settings page script json => do
    match ← (prepare read settings page script).run with
    | .error fault => return { result := .error fault }
    | .ok (settings, lines, page) => return runAnswer colours json (runLines settings page timed lines)
  | .check script => do
    match ← Script.load read script with
    | .error fault => return { result := .error fault }
    | .ok lines => return checkAnswer colours lines
  | .commands json => return { output := listing colours json, result := .ok () }

end CommandLine

end PageScript
