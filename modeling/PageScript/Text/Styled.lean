/-!
# Styled text

Text for a terminal: a text in a style stands between a code that turns the style on and one that turns
everything off. A text that turns styles off by itself gets the style back behind each such code. Where
colours are off a style changes nothing.
-/
namespace PageScript.Text

inductive Colour where
  | red
  | green
  | yellow
  deriving DecidableEq, Repr

structure Style where
  bold : Bool := false
  dimmed : Bool := false
  colour : Option Colour := none
  deriving DecidableEq, Repr

namespace Style

def Colour.code : Colour → String
  | .red => "31"
  | .green => "32"
  | .yellow => "33"

def codes (s : Style) : List String :=
  (if s.bold then ["1"] else []) ++ (if s.dimmed then ["2"] else []) ++ (s.colour.map Colour.code).toList

def start (s : Style) : List Char := ('\x1b' :: '[' :: (";".intercalate s.codes).toList) ++ ['m']

def stop : List Char := ['\x1b', '[', '0', 'm']

/-- Puts `code` behind every place where styles are turned off. -/
def restart (code : List Char) : List Char → List Char
  | '\x1b' :: '[' :: '0' :: 'm' :: s => '\x1b' :: '[' :: '0' :: 'm' :: code ++ restart code s
  | c :: s => c :: restart code s
  | [] => []

/-- A text in a style, if colours are on. -/
def paint (colours : Bool) (s : Style) (text : String) : String :=
  if colours then String.ofList (s.start ++ restart s.start text.toList ++ stop) else text

/-- Without colours a text is shown as it is. -/
@[simp] theorem paint_false (s : Style) (text : String) : s.paint false text = text := rfl

end Style

/-- A text with blanks behind it up to a width. -/
def padRight (width : Nat) (text : String) : String :=
  text ++ String.ofList (List.replicate (width - text.length) ' ')

/-- A text with blanks before it up to a width. -/
def padLeft (width : Nat) (text : String) : String :=
  String.ofList (List.replicate (width - text.length) ' ') ++ text

def unlines (lines : List String) : String := String.join (lines.map (· ++ "\n"))

end PageScript.Text
