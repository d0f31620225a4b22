import PageScript.Assoc
import PageScript.Host
import PageScript.Text.LetterCase

/-!
# On-screen keyboards

A keyboard is an element in which each key has a `span` for its label. A label with text stands for its
text in lower case; an empty one stands for shift if something in its key says so by its `alt`. To write
a text is to press, for every character, the key of its lower case, and shift before it if it is a
capital. All keys are looked up before the first is pressed, so a text with a missing key presses none.
-/
namespace PageScript.Keyboard

def labelTag : String := "span"

/-- The glyph of the shift key, and the `alt` by which it is known. -/
def shift : String := "shift"

/-- The key of each glyph. -/
abbrev Layout := List (String × Nat)

/-- What is to be pressed for one character. -/
def glyphsOf (c : Char) : List String :=
  let glyph := String.ofList (Text.lowercaseChar c)
  if Text.isUppercase c then [shift, glyph] else [glyph]

/-- What is to be pressed for a text, in order. -/
def glyphs (text : String) : List String := text.toList.flatMap glyphsOf

/-- The keys to be pressed for a text, or the first glyph that has none. -/
def Layout.presses (layout : Layout) (text : String) : Except String (List Nat) :=
  (glyphs text).mapM fun glyph =>
    match layout.lookup glyph with
    | some key => .ok key
    | none => .error glyph

variable {σ : Type} (host : Host σ)

def addShift (key : Nat) (layout : Layout) (child : Nat) : Call σ Layout := do
  let alt ← host.ask (.attr child "alt")
  return if alt.any (Text.asciiLowercase · == shift) then Assoc.put shift key layout else layout

/-- Adds the key that has a label. -/
def addKey (layout : Layout) (label : Nat) : Call σ Layout := do
  match ← host.ask (.parent label) with
  | none => return layout
  | some key =>
    let glyph ← host.ask (.text label)
    if glyph = "" then (← host.ask (.children key)).foldlM (addShift host key) layout
    else return Assoc.put (Text.lowercase glyph) key layout

/-- The keys below an element. Of two keys of one glyph the later one counts. -/
def layout (container : Nat) : Call σ Layout := do
  (← host.ask (.elementsByTag container labelTag)).foldlM (addKey host) []

def press : List Nat → Call σ Unit
  | [] => return ()
  | key :: keys => do
    host.ask (.activate key)
    press keys

end PageScript.Keyboard
