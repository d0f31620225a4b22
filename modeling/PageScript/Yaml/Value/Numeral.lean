import PageScript.Text.Numeral

/-!
# Numbers in YAML

Which plain texts are whole numbers and which are fractions. A zero in front of other decimal digits makes a
text of what would be a number.
-/
namespace PageScript.Yaml

/-- Decimal digits with a zero in front. -/
def isPadded : List Char → Bool
  | '0' :: c :: s => (c :: s).all Char.isDigit
  | _ => false

/-- The base that a numeral names, and its digits. -/
def based? : List Char → Option (Nat × List Char)
  | '0' :: 'x' :: s => some (16, s)
  | '0' :: 'o' :: s => some (8, s)
  | '0' :: 'b' :: s => some (2, s)
  | _ => none

def magnitude? (s : List Char) : Option Nat :=
  match based? s with
  | some (base, digits) => Text.digits? base digits
  | none => if isPadded s then none else Text.digits? 10 s

def natural? (s : List Char) : Option Nat := magnitude? (Text.dropPlus s)

def dropSign : List Char → List Char
  | '-' :: s => s
  | s => Text.dropPlus s

/-- The exponent of a fraction, which is zero where none is written. -/
def exponent? : List Char → Option Int
  | [] => some 0
  | c :: s =>
    if c = 'e' || c = 'E' then
      match s with
      | '-' :: s => (Text.digits? 10 s).map fun n => -(n : Int)
      | s => (Text.digits? 10 (Text.dropPlus s)).map Int.ofNat
    else none

/-- The digits of a fraction without a sign, and the power of ten that they count. -/
def fraction? (s : List Char) : Option (List Char × Int) := do
  let whole := s.takeWhile Char.isDigit
  let rest := s.dropWhile Char.isDigit
  let (tenths, rest) := match rest with
    | '.' :: rest => (rest.takeWhile Char.isDigit, rest.dropWhile Char.isDigit)
    | rest => ([], rest)
  guard (!(whole ++ tenths).isEmpty)
  return (whole ++ tenths, (← exponent? rest) - tenths.length)

/-- The least number that rounds to infinity in binary64: halfway between the largest finite number and the
power of two behind it. -/
def overflow : Nat := Nat.pow 2 1024 - Nat.pow 2 970

/-- Whether digits that count a power of ten stay below the overflow. It has 309 digits, so that only numbers
with as many have to be looked at closely. -/
def isFinite (digits : List Char) (power : Int) : Bool :=
  let digits := digits.dropWhile (· = '0')
  let places := digits.length + power
  let n := (Text.digits? 10 digits).getD 0
  digits.isEmpty || places < 309 ||
    (places = 309 && n * Nat.pow 10 power.toNat < overflow * Nat.pow 10 (-power).toNat)

/-- Whether a text is a decimal fraction that binary64 can hold. -/
def isFraction (s : List Char) : Bool :=
  (fraction? (dropSign s)).any fun (digits, power) => isFinite digits power

def infinities : List String := [".inf", ".Inf", ".INF"]

def nans : List String := [".nan", ".NaN", ".NAN"]

/-- Whether a text is a number that need not be whole. -/
def isFloat (text : String) : Bool :=
  infinities.contains (String.ofList (dropSign text.toList)) || nans.contains text || isFraction text.toList

end PageScript.Yaml
