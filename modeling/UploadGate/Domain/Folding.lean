import UploadGate.Domain.FoldingTable
import UploadGate.Text.Composed

/-! # Folding of domains

Domains that differ in upper and lower case, in the width of their letters or in other ways of
spelling are one domain. Folding replaces each character by what it stands for, leaves out those
that do not count, and composes what is left. ASCII letters become small letters.
-/

namespace UploadGate.Domain

open UploadGate.Text (isAscii composed)

/-- What a character stands for in a domain, if it may stand there. -/
def foldChar (c : Char) : Option (List Char) :=
  if isAscii c then some [c.toLower]
  else match replacements.image? c with
    | some cs => some cs
    | none =>
      if ignored.covers c then some []
      else if disallowed.covers c then none
      else some [c]

/-- Whether a character stands for itself. -/
def isFolded (c : Char) : Bool := foldChar c = some [c]

/-- The folded form of a text. -/
def fold (cs : List Char) : Option (List Char) :=
  (cs.mapM foldChar).map fun found => composed found.flatten

end UploadGate.Domain
