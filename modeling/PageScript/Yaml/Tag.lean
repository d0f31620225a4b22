/-!
# YAML tags

A tag names the kind of a node. The tags of the core schema share a start, and those of an application's own
start with a mark. A tag may have escapes, which stand for bytes: it ends at the first zero byte, and where
the bytes of an escape are no character it cannot be read as a text.
-/
namespace PageScript.Yaml

structure Tag where
  /-- The text, with a substitute for each escape that is no character. -/
  text : String
  /-- Whether every escape is a character. -/
  readable : Bool := true
  deriving DecidableEq, Repr, Inhabited

namespace Tag

/-- The tag of some characters, in which none stands for an escape that is no character. What is behind a zero
character is lost. -/
def ofChars (chars : List (Option Char)) : Tag :=
  let kept := chars.takeWhile (· != some '\x00')
  { text := String.ofList (kept.map (·.getD '\ufffd')), readable := kept.all Option.isSome }

/-- The tag that is a mark alone. -/
def mark : Tag := { text := "!" }

/-- What all tags of the core schema start with. -/
def coreStart : Tag := { text := "tag:yaml.org,2002:" }

def core (name : String) : Tag := { text := coreStart.text ++ name }

variable (t : Tag)

/-- A tag put behind a start. -/
def after (start : Tag) : Tag :=
  { text := start.text ++ t.text, readable := start.readable && t.readable }

def isMarked : Bool := t.text.startsWith "!"

/-- A tag of an application's own. One that cannot be read is nobody's. -/
def isOwn : Bool := t.readable && t.isMarked

end Tag

end PageScript.Yaml
