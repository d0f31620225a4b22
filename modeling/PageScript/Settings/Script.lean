import PageScript.Path
import PageScript.Script
import PageScript.Settings.Reader

/-!
# Settings and the script they name

Settings are read from a file, and the path of the script in them starts from the directory of that file.
Files are read by a function that is given, so that they may come from anywhere.
-/
namespace PageScript

variable {m : Type → Type} [Monad m] (read : String → m (Except Fault String))

def Script.load (path : String) : m (Except Fault (List String)) := do
  return (← read path).bind (Script.parse path)

namespace Settings

/-- The path of the script, from the directory of the settings. -/
def scriptPath (s : Settings) : String := Path.join s.baseDir s.testFile

def load (path : String) : m (Except Fault Settings) := do
  return (← read path).bind fun text =>
    (Settings.parse text).map ({ · with baseDir := (Path.parent? path).getD "." })

end Settings

end PageScript
