import UploadGate.Domain.Basic
import UploadGate.Number.Numeral
import UploadGate.Text.Percent
import UploadGate.Text.Split

/-! # Hosts of addresses

A host of a web address is an address of the Internet Protocol, version 6 in brackets, or a domain.
A domain whose last label is a number is read as an address of version 4, and is no host if it is
none. Other addresses have hosts without that rule. A host never holds the characters that part an
address.
-/

namespace UploadGate.Host

open Numeral (isHex valueIn)

/-- Characters that no host holds. -/
def isForbidden (c : Char) : Bool :=
  ['\x00', '\t', '\n', '\r', ' ', '#', '/', ':', '<', '>', '?', '@', '[', '\\', ']', '^',
    '|'].contains c

def isOctal (c : Char) : Bool := '0' ≤ c && c ≤ '7'

/-- A number of an address of version 4: hexadecimal after 0x, octal after another zero. -/
def number? : List Char → Option Nat
  | [] => none
  | ['0'] => some 0
  | '0' :: c :: rest =>
    if c = 'x' ∨ c = 'X' then if rest.all isHex then some (valueIn 16 rest) else none
    else if (c :: rest).all isOctal then some (valueIn 8 (c :: rest)) else none
  | cs => if cs.all Char.isDigit then some (valueIn 10 cs) else none

/-- The labels of a domain without the empty one after a dot at the end. -/
def withoutRoot (labels : List (List Char)) : List (List Char) :=
  if labels.getLast? = some [] then labels.dropLast else labels

/-- Whether the last label is a run of digits or a number. -/
def endsInNumber (labels : List (List Char)) : Bool :=
  match labels.getLast? with
  | none => false
  | some [] => false
  | some last => last.all Char.isDigit || (number? last).isSome

/-- Whether labels are an address of version 4: at most four numbers, of which the last one fills
the bytes that the others leave. -/
def isVersion4 (labels : List (List Char)) : Bool :=
  match labels.mapM number? with
  | none => false
  | some numbers =>
    match numbers.reverse with
    | [] => false
    | last :: others =>
      numbers.length ≤ 4 && others.all (· ≤ 255) && last < Nat.pow 256 (5 - numbers.length)

/-- A byte in decimal digits without leading zeros. -/
def isByte (cs : List Char) : Bool :=
  cs ≠ [] && cs.all Char.isDigit && (cs.length = 1 || cs.head? ≠ some '0') && valueIn 10 cs ≤ 255

/-- How many 16-bit pieces a part between colons makes, of which only the last may hold dots. -/
def pieceCount? (last : Bool) (part : List Char) : Option Nat :=
  if part ≠ [] ∧ part.length ≤ 4 ∧ part.all isHex then some 1
  else
    let bytes := Text.split '.' part
    if last && bytes.length = 4 && bytes.all isByte then some 2 else none

/-- How many pieces parts in a row make. -/
def pieces? (final : Bool) : List (List Char) → Option Nat
  | [] => some 0
  | [part] => pieceCount? final part
  | part :: later => do return (← pieceCount? false part) + (← pieces? final later)

/-- The parts between the colons of a text, none for an empty text. -/
def parts (cs : List Char) : List (List Char) := if cs = [] then [] else Text.split ':' cs

/-- Whether a text is an address of version 6: eight pieces, or fewer with two colons for the
missing ones. -/
def isVersion6 (cs : List Char) : Bool :=
  let front := Text.before [':', ':'] cs
  if front.length = cs.length then (pieces? true (parts cs)).any (· = 8)
  else
    let back := cs.drop (front.length + 2)
    match pieces? false (parts front), pieces? true (parts back) with
    | some m, some n => m + n ≤ 7
    | _, _ => false

def bracketed? : List Char → Option (List Char)
  | '[' :: rest => if rest.getLast? = some ']' then some rest.dropLast else none
  | _ => none

/-- Whether labels are those of a domain that is not empty, and is an address of version 4 if it
ends in a number. -/
def areHost (labels : List (List Char)) : Bool :=
  labels ≠ [[]] && (!endsInNumber (withoutRoot labels) || isVersion4 (withoutRoot labels))

/-- Whether a text is a host of a web address. -/
def isWebHost (cs : List Char) : Bool :=
  if cs.head? = some '[' then (bracketed? cs).any isVersion6
  else ((Text.Percent.decodeText? cs).bind fun text => Domain.labels? text.toList).any areHost

/-- Whether a text is a host of another address, where it may be empty. -/
def isOtherHost (cs : List Char) : Bool :=
  if cs.head? = some '[' then (bracketed? cs).any isVersion6 else !cs.any isForbidden

end UploadGate.Host
