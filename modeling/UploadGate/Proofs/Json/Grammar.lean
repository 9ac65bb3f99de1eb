import UploadGate.Json.Scan
import UploadGate.Proofs.Number.Denotation

/-! # The grammar of JSON

Which texts are JSON, and what tree each of them spells. Between its parts a text may have spaces,
tabs, line feeds and carriage returns. An escape in a string may name any 16-bit unit; a string of
which half a surrogate pair is left is JSON, but names no text. The digits of a number and the depth
of a tree have no limit.
-/

namespace UploadGate.Json

open UploadGate.Numeral (IsRun)

/-- White space between the parts of a text. -/
def IsSpacing (cs : List Char) : Prop := ∀ c ∈ cs, c ∈ [' ', '\t', '\n', '\r']

/-! ## Strings -/

/-- The letters of the short escapes, each with the character that it stands for. -/
def shortEscapes : List (Char × Char) :=
  [('\"', '\"'), ('\\', '\\'), ('/', '/'), ('b', '\x08'), ('f', '\x0c'), ('n', '\n'), ('r', '\r'),
    ('t', '\t')]

/-- How the pieces of a string are spelled. -/
inductive SpellsPiece : Scan.Piece → List Char → Prop
  | plain {c : Char} (hquote : c ≠ '\"') (hbackslash : c ≠ '\\') (hcontrol : 0x20 ≤ c.toNat) :
    SpellsPiece (.char c) [c]
  | escape {letter c : Char} (h : (letter, c) ∈ shortEscapes) : SpellsPiece (.char c) ['\\', letter]
  /-- Four hexadecimal digits give the number of a unit. -/
  | unit {a b c d : Char} (h : ∀ digit ∈ [a, b, c, d], Numeral.isHex digit = true) :
    SpellsPiece (.unit (Numeral.valueIn 16 [a, b, c, d])) ['\\', 'u', a, b, c, d]

/-- The characters that the pieces of a string name. Two units that are a surrogate pair name one
character; any other surrogate names none. -/
inductive Names : List Scan.Piece → List Char → Prop
  | nil : Names [] []
  | char {c : Char} {pieces : List Scan.Piece} {cs : List Char} (h : Names pieces cs) :
    Names (.char c :: pieces) (c :: cs)
  | unit {n : Nat} {pieces : List Scan.Piece} {cs : List Char} (hn : n < 0xD800 ∨ 0xE000 ≤ n)
    (h : Names pieces cs) : Names (.unit n :: pieces) (Char.ofNat n :: cs)
  | pair {high low : Nat} {pieces : List Scan.Piece} {cs : List Char}
    (hhigh : 0xD800 ≤ high ∧ high < 0xDC00) (hlow : 0xDC00 ≤ low ∧ low < 0xE000)
    (h : Names pieces cs) :
    Names (.unit high :: .unit low :: pieces)
      (Char.ofNat (0x10000 + (high - 0xD800) * 0x400 + (low - 0xDC00)) :: cs)

/-- A string with its quotes, and the text that it names, if it names one. -/
inductive SpellsString : Option String → List Char → Prop
  | quoted {named : Option String} {pieces : List Scan.Piece} {parts : List (List Char)}
    (hparts : List.Forall₂ SpellsPiece pieces parts)
    (hnamed : ∀ s, named = some s ↔ Names pieces s.toList) :
    SpellsString named ('\"' :: (parts.flatten ++ ['\"']))

/-! ## Numerals -/

/-- Digits before the point: a zero by itself, or digits that start with no zero. -/
structure IsWhole (digits : List Char) : Prop where
  isRun : IsRun digits
  eq_zero : digits.head? = some '0' → digits = ['0']

inductive SpellsFraction : Option (List Char) → List Char → Prop
  | none : SpellsFraction none []
  | digits {digits : List Char} (h : IsRun digits) : SpellsFraction (some digits) ('.' :: digits)

inductive SpellsExponent : Option ExponentPart → List Char → Prop
  | none : SpellsExponent none []
  | digits {mark : Char} {digits : List Char} (hmark : mark = 'e' ∨ mark = 'E') (h : IsRun digits) :
    SpellsExponent (some ⟨false, digits⟩) (mark :: digits)
  | plus {mark : Char} {digits : List Char} (hmark : mark = 'e' ∨ mark = 'E') (h : IsRun digits) :
    SpellsExponent (some ⟨false, digits⟩) (mark :: '+' :: digits)
  | minus {mark : Char} {digits : List Char} (hmark : mark = 'e' ∨ mark = 'E') (h : IsRun digits) :
    SpellsExponent (some ⟨true, digits⟩) (mark :: '-' :: digits)

/-- A numeral has a sign only if that is a minus. -/
inductive SpellsNumeral : Numeral → List Char → Prop
  | unsigned {whole fs es : List Char} {fraction : Option (List Char)}
    {exponent : Option ExponentPart} (hwhole : IsWhole whole)
    (hfraction : SpellsFraction fraction fs) (hexponent : SpellsExponent exponent es) :
    SpellsNumeral ⟨false, whole, fraction, exponent⟩ (whole ++ (fs ++ es))
  | minus {whole cs : List Char} {fraction : Option (List Char)} {exponent : Option ExponentPart}
    (h : SpellsNumeral ⟨false, whole, fraction, exponent⟩ cs) :
    SpellsNumeral ⟨true, whole, fraction, exponent⟩ ('-' :: cs)

/-! ## Values -/

/-- The parts of a text, with the trees that they spell. -/
inductive Part where
  | value (scan : Scan)
  /-- A value with white space around it. -/
  | element (scan : Scan)
  /-- The items of an array, at least one. -/
  | items (scans : List Scan)
  /-- The name of a member, with white space around it. -/
  | name (named : Option String)
  /-- The members of an object, at least one. -/
  | members (scans : List (Option String × Scan))

inductive Spells : Part → List Char → Prop
  | nullWord : Spells (.value .null) ['n', 'u', 'l', 'l']
  | trueWord : Spells (.value (.bool true)) ['t', 'r', 'u', 'e']
  | falseWord : Spells (.value (.bool false)) ['f', 'a', 'l', 's', 'e']
  | number {numeral : Numeral} {cs : List Char} (h : SpellsNumeral numeral cs) :
    Spells (.value (.number numeral)) cs
  | string {named : Option String} {cs : List Char} (h : SpellsString named cs) :
    Spells (.value (.string named)) cs
  | emptyArray {space : List Char} (hspace : IsSpacing space) :
    Spells (.value (.array [])) ('[' :: (space ++ [']']))
  | array {scans : List Scan} {cs : List Char} (h : Spells (.items scans) cs) :
    Spells (.value (.array scans)) ('[' :: (cs ++ [']']))
  | emptyObject {space : List Char} (hspace : IsSpacing space) :
    Spells (.value (.object [] true)) ('{' :: (space ++ ['}']))
  | object {scans : List (Option String × Scan)} {cs : List Char} (h : Spells (.members scans) cs) :
    Spells (.value (.object scans true)) ('{' :: (cs ++ ['}']))
  | element {scan : Scan} {front cs back : List Char} (hfront : IsSpacing front)
    (h : Spells (.value scan) cs) (hback : IsSpacing back) :
    Spells (.element scan) (front ++ (cs ++ back))
  | lastItem {scan : Scan} {cs : List Char} (h : Spells (.element scan) cs) :
    Spells (.items [scan]) cs
  | item {scan : Scan} {scans : List Scan} {cs later : List Char}
    (h : Spells (.element scan) cs) (hlater : Spells (.items scans) later) :
    Spells (.items (scan :: scans)) (cs ++ ',' :: later)
  | name {named : Option String} {front cs back : List Char} (hfront : IsSpacing front)
    (h : SpellsString named cs) (hback : IsSpacing back) :
    Spells (.name named) (front ++ (cs ++ back))
  | lastMember {named : Option String} {scan : Scan} {ns cs : List Char}
    (hname : Spells (.name named) ns) (h : Spells (.element scan) cs) :
    Spells (.members [(named, scan)]) (ns ++ ':' :: cs)
  | member {named : Option String} {scan : Scan} {scans : List (Option String × Scan)}
    {ns cs later : List Char} (hname : Spells (.name named) ns) (h : Spells (.element scan) cs)
    (hlater : Spells (.members scans) later) :
    Spells (.members ((named, scan) :: scans)) (ns ++ ':' :: (cs ++ ',' :: later))

end UploadGate.Json
