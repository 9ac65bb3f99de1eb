import UploadGate.Text.CaseTable

/-! # Lower case

The full lower-case form of a text. Every character is mapped on its own, except that a capital
sigma that ends a word takes its final form: one that follows a cased character and precedes none,
where characters that a case context skips do not count. One character, the capital I with a dot,
has a form of two characters.
-/

namespace UploadGate.Text

/-- The lower-case form of one character outside any context. -/
def lowerChar (c : Char) : List Char :=
  if c = '\u0130' then ['i', '\u0307']
  else match lowerRuns.find? (·.covers c.toNat) with
    | some run => [Char.ofNat (c.toNat + run.shift).toNat]
    | none => [c]

/-- Whether the first character that a case context does not skip is cased. -/
def nextIsCased (cs : List Char) : Bool :=
  match cs.dropWhile (inRanges caseIgnorableRanges) with
  | [] => false
  | c :: _ => inRanges casedRanges c

/-- The lower-case form of a text that follows other text, given in reverse order. -/
def lowerAfter : List Char → List Char → List Char
  | _, [] => []
  | earlier, c :: later =>
    (if c = 'Σ' then
      [if nextIsCased earlier && !nextIsCased later then 'ς' else 'σ']
    else lowerChar c) ++ lowerAfter (c :: earlier) later

/-- The full lower-case form of a text. -/
def lower (s : String) : String := .ofList (lowerAfter [] s.toList)

end UploadGate.Text
