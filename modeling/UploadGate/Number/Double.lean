/-! # Finite double-precision numbers

A finite binary64 number is kept as sign, mantissa and binary exponent, and its arithmetic is exact
arithmetic on natural numbers with one rounding, to the nearest number and to the even one of two.
A result that rounds past the largest finite number does not exist.
-/

namespace UploadGate

/-- The number mantissa × 2^exponent with a sign. The mantissa has 53 bits, fewer only at the least
exponent, so that every number but zero, which has two signs, is kept in one way. -/
structure Double where
  negative : Bool
  mantissa : Nat
  exponent : Int
deriving DecidableEq, Inhabited

namespace Double

def leastExponent : Int := -1074
def greatestExponent : Int := 971

def zero (negative : Bool) : Double := ⟨negative, 0, leastExponent⟩

/-- The quotient rounded to the nearest natural number, and to the even one of two. -/
def roundDiv (num den : Nat) : Nat :=
  let quotient := num / den
  match compare (2 * (num % den)) den with
  | .lt => quotient
  | .gt => quotient + 1
  | .eq => if quotient % 2 = 0 then quotient else quotient + 1

/-- The quotient of two natural numbers after division by a power of two, as a fraction. -/
def unscale (num den : Nat) (exponent : Int) : Nat × Nat :=
  (num * Nat.pow 2 (-exponent).toNat, den * Nat.pow 2 exponent.toNat)

/-- The exponent at which the quotient of two positive numbers has a mantissa of 53 bits, or the
least one. -/
def scaleOf (num den : Nat) : Int :=
  let guess := max ((num.log2 : Int) - den.log2 - 53) leastExponent
  let (n, d) := unscale num den guess
  if n / d < Nat.pow 2 53 then guess else guess + 1

/-- The number nearest to a quotient. -/
def nearest (negative : Bool) (num den : Nat) : Option Double :=
  if num = 0 then some (zero negative)
  else
    let exponent := scaleOf num den
    let (n, d) := unscale num den exponent
    let mantissa := roundDiv n d
    let (mantissa, exponent) :=
      if mantissa = Nat.pow 2 53 then (Nat.pow 2 52, exponent + 1) else (mantissa, exponent)
    if exponent ≤ greatestExponent then some ⟨negative, mantissa, exponent⟩ else none

/-- The fraction that is the size of a number. -/
def toFraction (x : Double) : Nat × Nat := unscale x.mantissa 1 (-x.exponent)

def mul (x y : Double) : Option Double :=
  let (a, b) := x.toFraction
  let (c, d) := y.toFraction
  nearest (x.negative != y.negative) (a * c) (b * d)

/-- The quotient by a number other than zero. -/
def div (x y : Double) : Option Double :=
  let (a, b) := x.toFraction
  let (c, d) := y.toFraction
  nearest (x.negative != y.negative) (a * d) (b * c)

end Double

end UploadGate
