import UploadGate.Domain.Direction
import UploadGate.Domain.Folding
import UploadGate.Domain.Joiner
import UploadGate.Domain.Punycode

/-! # Domains

A domain is a row of labels between dots. A label may hold letters of any script, or stand for such
a label in encoded form. The label that is meant must be in folded form, must not start with a mark,
and must have its joiners where they may stand; if any label is written from right to left, each
label must keep to one direction. Labels of plain ASCII need none of this. Some ASCII characters,
which part an address, stand in no domain.
-/

namespace UploadGate.Domain

open UploadGate.Text (isAscii isMark composed)

/-- ASCII characters that no domain holds. -/
def isForbidden (c : Char) : Bool :=
  c.toNat ≤ 0x20 ||
    ['%', '#', '/', ':', '<', '>', '?', '@', '[', '\\', ']', '^', '|', '\x7f'].contains c

/-- How an encoded label starts. -/
def encodedStart : List Char := "xn--".toList

/-- The greatest length of a label that is encoded, and of the encoding of a label. -/
def decodedLimit : Nat := 1000

def encodedLimit : Nat := 2000

/-- The label that an encoding stands for, which must not be empty or plain ASCII, must be in folded
form, and must not look like an encoded label. -/
def decodeLabel (encoding : List Char) : Option (List Char) :=
  if encoding.getLast? = some '-' ∨ encoding = [] ∨ encodedLimit < encoding.length then none
  else (Punycode.decode? encoding).filter fun label =>
    label.all isFolded && composed label = label && !encodedStart.isPrefixOf label

/-- The label that is meant by a label. -/
def readLabel (label : List Char) : Option (List Char) :=
  if encodedStart.isPrefixOf label then decodeLabel (label.drop encodedStart.length) else some label

/-- Whether a label may stand in a domain, directions aside. -/
def isSound (label : List Char) : Bool :=
  label.all isAscii ||
    (!label.head?.any isMark && Joiner.allAllowed label && label.length ≤ decodedLimit)

/-- Whether labels read the same in every context. -/
def keepDirections (labels : List (List Char)) : Bool :=
  !labels.any (·.any Direction.isRightToLeft) || labels.all Direction.isOneWay

/-- The labels of a text, if it is a domain. A dot at the end leaves an empty label. -/
def labels? (cs : List Char) : Option (List (List Char)) := do
  let folded ← fold cs
  let labels ← (Text.split '.' folded).mapM readLabel
  if !folded.any isForbidden && labels.all isSound && keepDirections labels then return labels
  else none

end UploadGate.Domain
