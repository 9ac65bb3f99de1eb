import UploadGate.Json.Value
import UploadGate.Number.Numeral

/-! # Numerals of JSON

A numeral is its sign, the digits before the point, and, if they are there, the digits after the
point and the exponent. A whole number that fits in 64 bits is an integer; every other numeral is a
double, and one too large for a double is no number at all. A double is made from the digits that
fit in 64 bits and a power of ten, with a rounding for each and one for their product, so that it
need not be the double nearest to the numeral.
-/

namespace UploadGate.Json

/-- The exponent of a numeral. -/
structure ExponentPart where
  negative : Bool
  digits : List Char
deriving DecidableEq

structure Numeral where
  negative : Bool
  whole : List Char
  fraction : Option (List Char)
  exponent : Option ExponentPart
deriving DecidableEq

namespace Numeral

open UploadGate.Numeral (digitValue)

def wordLimit : Nat := Nat.pow 2 64

/-- Append digits to a number as long as it fits in 64 bits; the digits left over come second. -/
def fill (n : Nat) : List Char → Nat × List Char
  | [] => (n, [])
  | c :: cs =>
    let next := 10 * n + digitValue c
    if next < wordLimit then fill next cs else (n, c :: cs)

/-- Scale a double up by a power of ten; the result may be too large. Zero stays zero. -/
def scaleUp (x : Double) (exponent : Nat) : Option Double :=
  if exponent ≤ 308 then (Double.nearest false (Nat.pow 10 exponent) 1).bind x.mul
  else if x.mantissa = 0 then some x else none

/-- Scale a double down by a power of ten, by 308 powers at a time. A double made from 64 bits is
zero after two such steps. -/
def scaleDown (steps : Nat) (x : Double) (exponent : Nat) : Option Double :=
  if exponent ≤ 308 then (Double.nearest false (Nat.pow 10 exponent) 1).bind x.div
  else if x.mantissa = 0 then some x
  else match steps with
    | 0 => some (.zero x.negative)
    | steps + 1 =>
      ((Double.nearest false (Nat.pow 10 308) 1).bind x.div).bind fun x =>
        scaleDown steps x (exponent - 308)

/-- The double significand × 10^exponent. -/
def toDouble (negative : Bool) (significand : Nat) (exponent : Int) : Option Double :=
  (Double.nearest negative significand 1).bind fun x =>
    if 0 ≤ exponent then scaleUp x exponent.toNat else scaleDown 4 x (-exponent).toNat

/-- The value of the exponent, which is at least the bound if it is not below it. -/
def ExponentPart.boundedValue (bound : Nat) (part : ExponentPart) : Nat :=
  part.digits.foldl (fun n c => if n < bound then 10 * n + digitValue c else n) 0

def exponentLimit : Nat := Nat.pow 2 31

/-- The number that a numeral denotes, if there is one. -/
def value? (numeral : Numeral) : Option Number :=
  let (front, dropped) := fill 0 numeral.whole
  let whole := dropped = [] ∧ numeral.fraction = none ∧ numeral.exponent = none
  if whole ∧ numeral.negative = false then some (.integer front)
  else if whole ∧ front ≠ 0 ∧ front ≤ Nat.pow 2 63 then some (.integer (-(front : Int)))
  else
    let fraction := numeral.fraction.getD []
    let (significand, unread) := fill front fraction
    let exponent : Int := dropped.length - (fraction.length - unread.length : Nat)
    match numeral.exponent with
    | none => (toDouble numeral.negative significand exponent).map .double
    | some part =>
      let power := ExponentPart.boundedValue exponentLimit part
      if exponentLimit ≤ power then
        if significand = 0 ∨ part.negative then some (.double (.zero numeral.negative)) else none
      else
        let shifted := if part.negative then exponent - power else exponent + power
        (toDouble numeral.negative significand shifted).map .double

end Numeral

end UploadGate.Json
