import PageScript.Action
import PageScript.Keyboard
import PageScript.Text.Blank
import PageScript.Waiting

/-!
# Performing actions

What each action does with a host, and what is said when it is done. An action that looks for an element
waits for it. The two actions that concern only the report do nothing here.
-/
namespace PageScript

def focusMark : String := "focus"

namespace Action

variable {σ : Type} (host : Host σ) (keyMap : List (String × Nat)) (timeout : Nat)

def typeOnKeyboard (selector text : String) : Call σ Unit := do
  let container ← host.await selector timeout
  let layout ← Keyboard.layout host container
  match layout.presses text with
  | .ok keys => Keyboard.press host keys
  | .error glyph => throw (.unknownKeyGlyph selector glyph)

def pressKey (key : String) : Call σ Unit := fun s =>
  match keyMap.lookup key with
  | none => (.error (.keyDispatchFailed key "no key code in the key map"), s)
  | some code =>
    match host.call (.keyDown code) s with
    | (.ok true, s) => (.ok (), s)
    | (.ok false, s) => (.error (.keyDispatchFailed key "the document cancelled the key-down"), s)
    | (.error fault, s) => (.error (.keyDispatchFailed key fault.message), s)

/-- Whether a class token is the mark of a focused element. -/
def marksFocus (token : String) : Bool := Text.contains focusMark.toList token.toList

/-- Whether one of some elements has the focus; the rest is not looked at after the first that has it. -/
def anyFocused : List Nat → Call σ Bool
  | [] => return false
  | node :: nodes => do
    let classes ← host.ask (.classNames node)
    if classes.any marksFocus then return true else anyFocused nodes

/-- Performs an action; answers what is said about its success. -/
def perform : Action → Call σ String
  | waitForElement selector => do
    let _ ← host.await selector timeout
    return s!"Waited for {selector}"
  | click selector => do
    let node ← host.await selector timeout
    host.ask (.activate node)
    return s!"Clicked on {selector}"
  | type selector text => do
    let node ← host.await selector timeout
    host.ask (.setValue node text)
    return s!"Typed {text} into {selector}"
  | typeWithKeyboard selector text => do
    typeOnKeyboard host timeout selector text
    return s!"Typed {text} using on-screen keyboard"
  | keyPress key => do
    pressKey host keyMap key
    return s!"Pressed {key}"
  | assertEquals selector expected => do
    let node ← host.await selector timeout
    let actual ← host.ask (.value node)
    if actual = expected then return s!"Value in {selector} matches {expected}"
    else throw (.assertionMismatch selector expected actual)
  | wait ms => do
    modify (host.sleep ms)
    return s!"Waited for {ms} ms"
  | checkFocus key => do
    let nodes ← host.ask (.queryAll "*")
    if ← anyFocused host nodes then return s!"Focus OK after {key}"
    else throw (.focusLost key)
  | beaconStart => return "Beacon started"
  | generateReport => return "Report generated"

end Action

end PageScript
