import PageScript.CommandLine
import PageScript.Files

/-!
# The program

Answers its arguments with the files of the system. A run takes as long as its document says.
-/
namespace PageScript.Program

/-- The number of an error of the system, of which the sign does not count. -/
def errorNumber (code : UInt32) : Nat := min code.toNat (0 - code).toNat

/-- Why the system refused to read a file, for the kinds of error that it has for that. -/
def refusal? : IO.Error → Option Files.Refusal
  | .noFileOrDirectory _ _ _ => some .missing
  | .inappropriateType _ code _ => some (if errorNumber code = 20 then .notDirectory else .isDirectory)
  | .invalidArgument _ code _ => some (if errorNumber code = 36 then .tooLong else .zeroCharacter)
  | _ => none

def readFile (path : String) : IO (Except Fault String) := do
  match ← (IO.FS.readBinFile path).toBaseIO with
  | .error error =>
    return .error (.fileRead path (((refusal? error).map Files.Refusal.message).getD error.toString))
  | .ok bytes =>
    match String.fromUTF8? bytes with
    | some text => return .ok text
    | none => return .error (.fileRead path Files.Refusal.notText.message)

/-- Waits for some milliseconds, a day at a time and then the rest. -/
def pause (ms : Nat) : IO Unit := do
  let day := 86400000
  for _ in [0:ms / day] do
    IO.sleep day.toUInt32
  IO.sleep (ms % day).toUInt32

/-- Whether colours are wanted: on a terminal, unless the environment refuses them. -/
def colours : IO Bool := do
  return (← (← IO.getStdout).isTty) && (← IO.getEnv "NO_COLOR").isNone

def run (invocation : Invocation) : IO UInt32 := do
  let answer ← CommandLine.answer (← colours) readFile true invocation
  pause answer.duration
  IO.print answer.output
  match answer.result with
  | .ok () => return 0
  | .error fault =>
    IO.eprintln s!"Error: {fault.message}"
    return 1

def usage : String :=
  "Usage: uitest run [-c <CONFIG>] -p <PAGE> [--script <SCRIPT>] [--json]\n" ++
  "       uitest check <SCRIPT>\n" ++
  "       uitest commands [--json]"

end PageScript.Program

def main (arguments : List String) : IO UInt32 := do
  match PageScript.Invocation.parse arguments with
  | some invocation => PageScript.Program.run invocation
  | none =>
    IO.eprintln PageScript.Program.usage
    return 2
