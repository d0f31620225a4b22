/-!
# Verbs

The table of the commands a script may use: how each is called, what it takes, whether running it
leaves an outcome in the report, and a line of description.
-/
namespace PageScript

inductive Verb where
  | waitForElement
  | click
  | type
  | typeWithKeyboard
  | keyPress
  | assertEquals
  | wait
  | checkFocus
  | beaconStart
  | generateReport
  deriving DecidableEq, Repr

namespace Verb

structure Info where
  /-- The name used in scripts. -/
  name : String
  /-- Other accepted names. -/
  aliases : List String
  /-- The names of the arguments, in order. -/
  params : List String
  /-- Whether running it records an outcome. -/
  reported : Bool
  /-- Whether the runner injects it, so that scripts have no need to write it. -/
  synthetic : Bool
  description : String
  deriving DecidableEq, Repr

/-- All verbs, in the order in which they are listed. -/
def all : List Verb :=
  [waitForElement, click, type, typeWithKeyboard, keyPress, assertEquals, wait, checkFocus, beaconStart,
    generateReport]

@[simp] theorem mem_all (v : Verb) : v ∈ all := by cases v <;> decide

def info : Verb → Info
  | waitForElement =>
    ⟨"waitForElement", [], ["selector"], true, false, "Wait until an element matches the selector"⟩
  | click => ⟨"click", [], ["selector"], true, false, "Click an element"⟩
  | type => ⟨"type", [], ["selector", "text"], true, false, "Set the value of an element"⟩
  | typeWithKeyboard =>
    ⟨"typeWithKeyboard", [], ["selector", "text"], true, false,
      "Type text by clicking the keys of an on-screen keyboard"⟩
  | keyPress => ⟨"keyPress", [], ["key"], true, false, "Dispatch a key-down for a key from the key map"⟩
  | assertEquals =>
    ⟨"assertEquals", ["asserts"], ["selector", "expected"], true, false,
      "Check that an element's value equals the expected text"⟩
  | wait => ⟨"wait", [], ["ms"], false, false, "Pause for a number of milliseconds"⟩
  | checkFocus =>
    ⟨"checkFocus", [], ["key"], false, true,
      "Abort the run if no element in the document carries a focus class"⟩
  | beaconStart => ⟨"beaconStart", [], [], true, false, "Restart the report and its timer"⟩
  | generateReport =>
    ⟨"generateReport", [], [], false, false, "Finish the report now; later commands are not recorded"⟩

def name (v : Verb) : String := v.info.name

def answersTo (v : Verb) (name : String) : Bool := v.info.name == name || v.info.aliases.contains name

/-- The verb of a name or an alias. Capitals count. -/
def find? (name : String) : Option Verb := all.find? (·.answersTo name)

/-- No two entries of the table share a name. -/
theorem eq_of_answersTo {v w : Verb} {name : String} (hv : v.answersTo name = true)
    (hw : w.answersTo name = true) : v = w := by
  cases v <;> cases w <;> simp_all [answersTo, info] <;> subst_vars <;> simp_all

theorem answersTo_of_find? {v : Verb} {name : String} (h : find? name = some v) :
    v.answersTo name = true := by
  unfold find? at h
  simpa using List.find?_some h

theorem find?_eq_some {v : Verb} {name : String} : find? name = some v ↔ v.answersTo name = true := by
  constructor
  · exact answersTo_of_find?
  · intro h
    cases hf : find? name with
    | none => exact absurd h (by simpa using List.find?_eq_none.1 hf v (mem_all v))
    | some w => rw [eq_of_answersTo (answersTo_of_find? hf) h]

end Verb

end PageScript
