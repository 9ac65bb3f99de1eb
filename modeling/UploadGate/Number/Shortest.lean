import UploadGate.Number.Double
import UploadGate.Number.Numeral

/-! # The shortest text of a double

A double is written with the fewest decimal digits that read back to it, and of those with the
digits nearest to its value. Numbers from 10^-5 up to 10^16 are written positionally, with at least
one digit after the point; all others with one digit before the point and an exponent.
-/

namespace UploadGate

/-- The decimal number digits × 10^exponent. -/
structure Decimal where
  digits : Nat
  exponent : Int
deriving DecidableEq

namespace Decimal

/-- Compare the decimal number with mantissa × 2^exponent, exactly. -/
def compareBinary (x : Decimal) (mantissa : Nat) (exponent : Int) : Ordering :=
  compare (x.digits * Nat.pow 10 x.exponent.toNat * Nat.pow 2 (-exponent).toNat)
    (mantissa * Nat.pow 2 exponent.toNat * Nat.pow 10 (-x.exponent).toNat)

/-- Move the trailing zeros of the digits into the exponent. -/
def stripZeros (fuel : Nat) (x : Decimal) : Decimal :=
  match fuel with
  | 0 => x
  | fuel + 1 =>
    if x.digits ≠ 0 ∧ x.digits % 10 = 0 then stripZeros fuel ⟨x.digits / 10, x.exponent + 1⟩ else x

end Decimal

namespace Double

/-- Whether a positive decimal number rounds to the size of a number: it lies between the midpoints
to the two neighbours, and may be one of them where the mantissa is even. The neighbour below a
power of two is half as far away as the one above. -/
def readsBack (x : Double) (candidate : Decimal) : Bool :=
  let narrow := x.mantissa = Nat.pow 2 52 ∧ leastExponent < x.exponent
  let low := candidate.compareBinary (if narrow then 4 * x.mantissa - 1 else 4 * x.mantissa - 2)
    (x.exponent - 2)
  let high := candidate.compareBinary (4 * x.mantissa + 2) (x.exponent - 2)
  let closed := x.mantissa % 2 = 0
  (low = .gt || (closed && low = .eq)) && (high = .lt || (closed && high = .eq))

/-- The number of digits before the point, zero or less for a number below one: the least k for
which the number lies below 10^k. -/
def pointPlace (x : Double) : Int :=
  let guess := ((x.mantissa.log2 : Int) + x.exponent) * 30103 / 100000
  let below (k : Int) : Bool := Decimal.compareBinary ⟨1, k⟩ x.mantissa x.exponent = .gt
  if below guess then guess else if below (guess + 1) then guess + 1 else guess + 2

/-- The nearest decimal number on the grid of 10^exponent that reads back, if one does. Of two at
one distance the even one is taken. -/
def onGrid? (x : Double) (exponent : Int) : Option Decimal :=
  let (a, b) := x.toFraction
  let num := a * Nat.pow 10 (-exponent).toNat
  let den := b * Nat.pow 10 exponent.toNat
  let floor := num / den
  let pick := Double.roundDiv num den
  let other := if pick = floor then floor + 1 else floor
  if x.readsBack ⟨pick, exponent⟩ then some ⟨pick, exponent⟩
  else if x.readsBack ⟨other, exponent⟩ then some ⟨other, exponent⟩
  else none

/-- The shortest decimal number that reads back to a number other than zero. Seventeen digits
always do; the fallback is the exact value. -/
def shortest (x : Double) : Decimal :=
  let place := x.pointPlace
  match (List.range 17).findSome? fun n => x.onGrid? (place - (n + 1 : Nat)) with
  | some found => found.stripZeros 20
  | none => if 0 ≤ x.exponent then ⟨x.mantissa * Nat.pow 2 x.exponent.toNat, 0⟩
    else ⟨x.mantissa * Nat.pow 5 (-x.exponent).toNat, x.exponent⟩

/-- Lay out the digits of a decimal number. -/
def layout (x : Decimal) : List Char :=
  let digits := Numeral.ofNat x.digits
  let place : Int := digits.length + x.exponent
  if 0 ≤ x.exponent ∧ place ≤ 16 then
    digits ++ List.replicate x.exponent.toNat '0' ++ ['.', '0']
  else if 0 < place ∧ place ≤ 16 then
    digits.take place.toNat ++ '.' :: digits.drop place.toNat
  else if -5 < place ∧ place ≤ 0 then
    ['0', '.'] ++ List.replicate (-place).toNat '0' ++ digits
  else
    let mark := 'e' :: Numeral.ofInt (place - 1)
    match digits with
    | [] => mark
    | [digit] => digit :: mark
    | digit :: rest => digit :: '.' :: rest ++ mark

/-- The text of a number. -/
def render (x : Double) : List Char :=
  (if x.negative then ['-'] else []) ++
    if x.mantissa = 0 then ['0', '.', '0'] else layout x.shortest

end Double

end UploadGate
