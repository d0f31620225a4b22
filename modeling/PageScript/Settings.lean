/-!
# Settings

What a run is configured with.
-/
namespace PageScript

structure Settings where
  /-- The code of each key name; a name occurs once. -/
  keyMap : List (String × Nat) := []
  /-- How long elements are waited for, in milliseconds. -/
  timeout : Nat := 5000
  /-- The path of the script. -/
  testFile : String := ""
  /-- The delay injected between commands, in milliseconds; zero for none. -/
  delayBetween : Nat := 0
  /-- Whether the local storage is cleared at the end. -/
  clearLocalStorage : Bool := false
  /-- Whether the first failure of a reported command ends the run. -/
  stopOnFailure : Bool := false
  /-- The directory from which relative paths start. -/
  baseDir : String := "."
  deriving DecidableEq, Repr, Inhabited

end PageScript
