/-!
# Numerals

Reading a natural number from its digits, and the range of the numbers of 64 and 32 bits. Only the digits
0 to 9 and the letters a to f count, whatever other scripts have for digits.
-/
namespace PageScript.Text

/-- One more than the largest number of 64 bits. -/
def bound64 : Nat := 0x10000000000000000

/-- One more than the largest number of 32 bits. -/
def bound32 : Nat := 0x100000000

/-- The value of a digit in bases up to sixteen, in either case. -/
def digitValue (c : Char) : Option Nat :=
  if '0' ≤ c ∧ c ≤ '9' then some (c.toNat - '0'.toNat)
  else if 'a' ≤ c ∧ c ≤ 'f' then some (c.toNat - 'a'.toNat + 10)
  else if 'A' ≤ c ∧ c ≤ 'F' then some (c.toNat - 'A'.toNat + 10)
  else none

/-- Reads digits behind a number already read. -/
def digitsAfter (base : Nat) (n : Nat) : List Char → Option Nat
  | [] => some n
  | c :: s =>
    match digitValue c with
    | some d => if d < base then digitsAfter base (n * base + d) s else none
    | none => none

/-- The number written by one or more digits of the base. -/
def digits? (base : Nat) : List Char → Option Nat
  | [] => none
  | s => digitsAfter base 0 s

/-- One leading plus sign is dropped. -/
def dropPlus : List Char → List Char
  | '+' :: s => s
  | s => s

/-- A number of 64 bits: decimal digits, possibly behind a plus sign. -/
def natural64? (s : List Char) : Option Nat :=
  (digits? 10 (dropPlus s)).filter (· < bound64)

end PageScript.Text
