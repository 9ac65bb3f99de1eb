import UploadGate.Text.CompositeTable
import UploadGate.Text.Mark

/-! # Composed form

The same text can be spelled with composite characters or with marks of their own, and with marks in
different orders. In the composed form every composite character is taken apart first, then marks
that stand together are put in the order of their classes, and then each character is joined with
the marks behind it, or the letter behind it, as far as composite characters exist for that.
-/

namespace UploadGate.Text

def isAscii (c : Char) : Bool := c.toNat < 0x80

/-! ## Syllables of Hangul

A syllable is a leading consonant, a vowel and perhaps a trailing consonant, and the syllables are
in the order of these three.
-/

namespace Hangul

def firstSyllable : Nat := 0xAC00
def firstLead : Nat := 0x1100
def firstVowel : Nat := 0x1161

/-- The character before the first trailing consonant, which stands for none. -/
def noTail : Nat := 0x11A7

def leadCount : Nat := 19
def vowelCount : Nat := 21
def tailCount : Nat := 28

/-- The number of a syllable. -/
def index? (c : Char) : Option Nat :=
  if firstSyllable ≤ c.toNat ∧ c.toNat < firstSyllable + leadCount * vowelCount * tailCount then
    some (c.toNat - firstSyllable)
  else none

def letters (index : Nat) : List Char :=
  let lead := firstLead + index / (vowelCount * tailCount)
  let vowel := firstVowel + index / tailCount % vowelCount
  let tail := index % tailCount
  Char.ofNat lead :: Char.ofNat vowel :: if tail = 0 then [] else [Char.ofNat (noTail + tail)]

/-- The syllable of a consonant and a vowel, or of a syllable without trailing consonant and one. -/
def join? (first second : Char) : Option Char :=
  match index? first with
  | some index =>
    if index % tailCount = 0 ∧ noTail < second.toNat ∧ second.toNat < noTail + tailCount then
      some (Char.ofNat (first.toNat + (second.toNat - noTail)))
    else none
  | none =>
    if firstLead ≤ first.toNat ∧ first.toNat < firstLead + leadCount ∧ firstVowel ≤ second.toNat ∧
      second.toNat < firstVowel + vowelCount then
      let lead := first.toNat - firstLead
      let vowel := second.toNat - firstVowel
      some (Char.ofNat (firstSyllable + (lead * vowelCount + vowel) * tailCount))
    else none

end Hangul

/-! ## Taking apart -/

/-- What a character is composed of, where the first part may itself be composed so many times. -/
def partsWithin : Nat → Char → List Char
  | 0, c => [c]
  | times + 1, c =>
    match Hangul.index? c with
    | some index => Hangul.letters index
    | none =>
      match composites.image? c with
      | some [base, mark] => partsWithin times base ++ [mark]
      | _ => [c]

/-- What a character is composed of. No character holds more than four parts. -/
def parts (c : Char) : List Char := if isAscii c then [c] else partsWithin 4 c

/-! ## Order of marks -/

/-- Put a character before others, but a mark behind the marks of lower classes. -/
def insertMark (c : Char) : List Char → List Char
  | [] => [c]
  | other :: rest =>
    if 0 < combiningClass other ∧ combiningClass other < combiningClass c then
      other :: insertMark c rest
    else c :: other :: rest

def orderMarks (cs : List Char) : List Char := cs.foldr insertMark []

/-! ## Joining -/

/-- The composite of two characters. -/
def composite? (first second : Char) : Option Char :=
  (Hangul.join? first second).or <|
    composites.findSome? fun run =>
      (run.values.idxOf? [first.toNat, second.toNat]).map fun index =>
        Char.ofNat (run.first + index)

/-- Join a character with what follows it. Marks that it was not joined with, given in reverse
order, keep apart from it what follows, unless that is a mark of a higher class. -/
def joinFrom (base : Char) (skipped : List Char) : List Char → List Char
  | [] => base :: skipped.reverse
  | c :: later =>
    let apart := skipped.head?.any fun mark => combiningClass c ≤ combiningClass mark
    match if apart then none else composite? base c with
    | some joined => joinFrom joined skipped later
    | none =>
      if combiningClass c = 0 then base :: (skipped.reverse ++ joinFrom c [] later)
      else joinFrom base (c :: skipped) later

/-- Join every character with what follows it. Marks at the start stay as they are. -/
def joinMarks : List Char → List Char
  | [] => []
  | c :: later => if combiningClass c = 0 then joinFrom c [] later else c :: joinMarks later

/-- The composed form of a text. -/
def composed (cs : List Char) : List Char :=
  if cs.all isAscii then cs else joinMarks (orderMarks (cs.flatMap parts))

end UploadGate.Text
