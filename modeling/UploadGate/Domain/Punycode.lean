import UploadGate.Text.Split

/-! # Punycode

Punycode writes a text in ASCII. The ASCII characters of the text come first, up to the last hyphen.
Then follow the others, each as the distance from the one before it in an order by code and by
position. A distance is a number in base 36 with its lowest digit first, where a digit below a
threshold is the last one. The thresholds follow the distances seen so far.
-/

namespace UploadGate.Domain.Punycode

/-- The value of a digit: letters come before the ten digits. -/
def digitValue? (c : Char) : Option Nat :=
  if c.isAlpha then some (c.toLower.toNat - 'a'.toNat)
  else if c.isDigit then some (c.toNat - '0'.toNat + 26)
  else none

/-- The bound of the numbers in between; a text that goes beyond it is refused. -/
def bound : Nat := 4294967296

/-- Below what a digit is the last one, for the digit at a place, which counts in steps of 36. -/
def threshold (place bias : Nat) : Nat :=
  if place ≤ bias then 1 else if bias + 26 ≤ place then 26 else place - bias

/-- Divide by 35 until little is left; the steps of 36 that were taken come second. -/
def shrink (distance steps : Nat) : Nat × Nat :=
  if 455 < distance then shrink (distance / 35) (steps + 36) else (distance, steps)
termination_by distance
decreasing_by exact Nat.div_lt_self (by omega) (by omega)

/-- The bias after a distance, for a text of so many characters. -/
def adapt (distance count : Nat) (isFirst : Bool) : Nat :=
  let scaled := if isFirst then distance / 700 else distance / 2
  let (rest, steps) := shrink (scaled + scaled / count) 0
  steps + 36 * rest / (rest + 38)

/-- A text that has been decoded in part. -/
structure Progress where
  text : List Char
  /-- The code of the character that came last. -/
  code : Nat
  /-- The place in the text to which the distance is added. -/
  index : Nat
  /-- That place before the distance that is being read. -/
  start : Nat
  bias : Nat
  /-- The weight of the next digit, and its place. -/
  weight : Nat
  place : Nat

/-- Nothing has been decoded yet but the ASCII characters. -/
def Progress.ofAscii (text : List Char) : Progress := ⟨text, 128, 0, 0, 72, 1, 36⟩

/-- Whether no distance has been started. -/
def Progress.isDone (progress : Progress) : Bool := progress.place = 36

/-- Put in the character to which a distance leads. -/
def Progress.place? (progress : Progress) : Option Progress :=
  let count := progress.text.length + 1
  let code := progress.code + progress.index / count
  let index := progress.index % count
  if code.isValidChar then
    some {
      text := progress.text.insertIdx index (Char.ofNat code)
      code
      index := index + 1
      start := index + 1
      bias := adapt (progress.index - progress.start) count (progress.start = 0)
      weight := 1
      place := 36 }
  else none

/-- Read a digit. -/
def Progress.read? (progress : Progress) (c : Char) : Option Progress := do
  let digit ← digitValue? c
  let index := progress.index + digit * progress.weight
  let threshold := threshold progress.place progress.bias
  let weight := progress.weight * (36 - threshold)
  if bound ≤ index then none
  else if digit < threshold then Progress.place? { progress with index }
  else if bound ≤ weight then none
  else some { progress with index, weight, place := progress.place + 36 }

/-- Decode a text in ASCII. -/
def decode? (cs : List Char) : Option (List Char) :=
  let (ascii, digits) := match Text.cutLast '-' cs with
    | some ([], _) => ([], cs)
    | some (ascii, digits) => (ascii, digits)
    | none => ([], cs)
  ((digits.foldlM Progress.read? (.ofAscii ascii)).filter Progress.isDone).map Progress.text

end UploadGate.Domain.Punycode
