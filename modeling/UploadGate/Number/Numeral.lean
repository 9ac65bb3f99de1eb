/-! # Numerals of integers

Digits are the ten ASCII digits, and in base sixteen the letters up to f in either case. An unsigned
decimal numeral may start with a plus sign and a signed one with either sign; neither may be empty
after its sign, and any number of leading zeros is allowed. A numeral whose value lies outside its
bounds is refused, never wrapped or clamped.
-/

namespace UploadGate.Numeral

/-- The value of one digit. -/
def digitValue (c : Char) : Nat := c.toNat - '0'.toNat

/-- The value of a run of digits. -/
def value (digits : List Char) : Nat := digits.foldl (fun n c => 10 * n + digitValue c) 0

/-- A run of one or more digits. -/
def natural? (cs : List Char) : Option Nat :=
  if cs ≠ [] ∧ cs.all Char.isDigit then some (value cs) else none

/-- A numeral with an optional plus sign, of a number not above the bound. -/
def unsigned? (bound : Nat) (cs : List Char) : Option Nat :=
  let digits := match cs with
    | '+' :: rest => rest
    | _ => cs
  (natural? digits).filter (· ≤ bound)

/-- Whether an integer fits in 64 bits with a sign. -/
def fitsSigned (n : Int) : Bool := -9223372036854775808 ≤ n && n ≤ 9223372036854775807

/-- A numeral with an optional sign, of an integer that fits in 64 bits. -/
def signed? (cs : List Char) : Option Int :=
  let n := match cs with
    | '-' :: rest => (natural? rest).map fun digits : Nat => -(digits : Int)
    | '+' :: rest => (natural? rest).map fun digits : Nat => (digits : Int)
    | _ => (natural? cs).map fun digits : Nat => (digits : Int)
  n.filter fitsSigned

def isHex (c : Char) : Bool := c.isDigit || ('a' ≤ c && c ≤ 'f') || ('A' ≤ c && c ≤ 'F')

/-- The value of one hexadecimal digit. -/
def hexValue (c : Char) : Nat :=
  if c.isDigit then digitValue c else c.toLower.toNat - 'a'.toNat + 10

/-- The value of a run of digits in a base of at most sixteen. -/
def valueIn (base : Nat) (digits : List Char) : Nat :=
  digits.foldl (fun n c => base * n + hexValue c) 0

/-- The character of a digit below ten. -/
def digitChar (n : Nat) : Char := Char.ofNat ('0'.toNat + n)

/-- The digits of a number, without leading zeros. -/
def ofNat (n : Nat) : List Char :=
  if n < 10 then [digitChar n] else ofNat (n / 10) ++ [digitChar (n % 10)]

/-- The numeral of an integer, with a minus sign before the negative ones. -/
def ofInt (n : Int) : List Char :=
  if n < 0 then '-' :: ofNat n.natAbs else ofNat n.natAbs

/-- The numeral as a text. -/
def text (n : Int) : String := .ofList (ofInt n)

/-- The digits of a number, filled up with zeros on the left to a width. -/
def padded (width n : Nat) : List Char :=
  let digits := ofNat n
  List.replicate (width - digits.length) '0' ++ digits

end UploadGate.Numeral
