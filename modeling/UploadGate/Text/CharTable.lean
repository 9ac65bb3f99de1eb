import UploadGate.Number.Numeral
import UploadGate.Text.Blank
import UploadGate.Text.Split

/-! # Tables of characters

A table says something of some characters, which are listed in runs. It is written as a text of
entries between white space. An entry starts with the hexadecimal codes of the first and the last
character of a run with a hyphen between them, and with a slash before the step if only each second
one counts; the code of a single character stands alone. After an equals sign follows what the table
says: codes, with a plus sign between those that belong together and commas between those for the
characters of a run that starts here.
-/

namespace UploadGate.Text

structure CharRun where
  first : Nat
  last : Nat
  step : Nat
  values : List (List Nat)

namespace CharRun

def covers (run : CharRun) (code : Nat) : Bool :=
  run.first ≤ code && code ≤ run.last && (code - run.first) % run.step = 0

def hex (cs : List Char) : Nat := Numeral.valueIn 16 cs

/-- What stands before and after a sign, which need not be there. -/
def halves (sign : Char) (cs : List Char) : List Char × Option (List Char) :=
  match cutFirst sign cs with
  | some (front, back) => (front, some back)
  | none => (cs, none)

def readValues (cs : List Char) : List (List Nat) :=
  (split ',' cs).map fun value => (split '+' value).map hex

/-- Read an entry. A run whose last character is not given has one character for each value. -/
def ofEntry (cs : List Char) : CharRun :=
  let (key, values) := halves '=' cs
  let (bounds, step) := halves '/' key
  let (first, last) := halves '-' bounds
  let values := values.elim [] readValues
  { first := hex first
    last := last.elim (hex first + (values.length - 1)) hex
    step := step.elim 1 hex
    values }

/-- What the run says of one of its characters: its own value, or the value of the first character
moved as far as the character is. -/
def image (run : CharRun) (code : Nat) : List Nat :=
  match run.values with
  | [[first]] => [first + (code - run.first)]
  | values => values.getD (code - run.first) []

end CharRun

abbrev CharTable := List CharRun

namespace CharTable

def ofText (text : String) : CharTable :=
  let words := split ' ' (text.toList.map fun c => if isBlank c then ' ' else c)
  (words.filter (· ≠ [])).map CharRun.ofEntry

def run? (table : CharTable) (c : Char) : Option CharRun := table.find? (·.covers c.toNat)

def covers (table : CharTable) (c : Char) : Bool := table.any (·.covers c.toNat)

/-- The characters that the table gives for a character. -/
def image? (table : CharTable) (c : Char) : Option (List Char) :=
  (table.run? c).map fun run => (run.image c.toNat).map Char.ofNat

/-- The number that the table gives for every character of a run. -/
def constant? (table : CharTable) (c : Char) : Option Nat :=
  (table.run? c).bind fun run => run.values.head?.bind List.head?

end CharTable

end UploadGate.Text
