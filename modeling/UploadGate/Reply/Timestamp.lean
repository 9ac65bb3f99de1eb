import UploadGate.Number.Numeral
import UploadGate.Text.Blank

/-! # Points in time

A point in time is a day of the Gregorian calendar and a time of that day, in coordinated universal
time. Texts may give it with an offset: the date, the letter t or a space, the time with any number
of digits after the point, and Z, UTC or hours and minutes with a sign. Months, days, hours, minutes
and seconds may have a single digit, and white space may stand before them. Second 60 is kept, as a
leap second.
-/

namespace UploadGate

structure Timestamp where
  year : Int
  month : Nat
  day : Nat
  hour : Nat
  minute : Nat
  second : Nat
  nanosecond : Nat
deriving DecidableEq

namespace Timestamp

/-! ## The calendar -/

def isLeapYear (year : Int) : Bool := year % 4 = 0 && (year % 100 ≠ 0 || year % 400 = 0)

def daysInMonth (year : Int) (month : Nat) : Nat :=
  if month = 2 then if isLeapYear year then 29 else 28
  else if month = 4 ∨ month = 6 ∨ month = 9 ∨ month = 11 then 30
  else 31

/-- The years that can be told apart. -/
def firstYear : Int := -262143

def lastYear : Int := 262142

/-- A date of the calendar. -/
structure Date where
  year : Int
  month : Nat
  day : Nat
deriving DecidableEq

def Date.next (date : Date) : Option Date :=
  if date.day < daysInMonth date.year date.month then some { date with day := date.day + 1 }
  else if date.month < 12 then some { date with month := date.month + 1, day := 1 }
  else if date.year < lastYear then some ⟨date.year + 1, 1, 1⟩
  else none

def Date.previous (date : Date) : Option Date :=
  if 1 < date.day then some { date with day := date.day - 1 }
  else if 1 < date.month then
    some { date with month := date.month - 1, day := daysInMonth date.year (date.month - 1) }
  else if firstYear < date.year then some ⟨date.year - 1, 12, 31⟩
  else none

/-- The date and the minute of it for a minute that lies at most a day off the date. -/
def settle (date : Date) (minute : Int) : Option (Date × Nat) :=
  if minute < 0 then date.previous.map (·, (minute + 1440).toNat)
  else if minute < 1440 then some (date, minute.toNat)
  else date.next.map (·, (minute - 1440).toNat)

/-! ## Reading -/

/-- What is left of a text after a part of it has been read. -/
abbrev Reader (α : Type) := List Char → Option (α × List Char)

def skipBlanks (cs : List Char) : List Char := cs.dropWhile Text.isBlank

/-- A run of digits, at least one and at most the given number. -/
def digits (limit : Nat) : Reader Nat := fun cs =>
  let run := (cs.take limit).takeWhile Char.isDigit
  if run = [] then none else some (Numeral.value run, cs.drop run.length)

/-- A number of one or two digits within the bounds, with white space before it. -/
def part (min max : Nat) : Reader Nat := fun cs =>
  (digits 2 (skipBlanks cs)).filter fun (n, _) => min ≤ n && n ≤ max

/-- A year: up to four digits, or any number of them after a sign. -/
def readYear : Reader Int := fun cs =>
  let cs := skipBlanks cs
  let found : Option (Int × List Char) := match cs with
    | '-' :: rest => (digits rest.length rest).map fun (n, rest) => (-(n : Int), rest)
    | '+' :: rest => (digits rest.length rest).map fun (n, rest) => ((n : Int), rest)
    | _ => (digits 4 cs).map fun (n, rest) => ((n : Int), rest)
  found.filter fun (year, _) => firstYear ≤ year && year ≤ lastYear

/-- A mark, with white space before it. -/
def mark (c : Char) (cs : List Char) : Option (List Char) :=
  match skipBlanks cs with
  | d :: rest => if d = c then some rest else none
  | [] => none

/-- The nanoseconds of a point and the digits after it, of which the tenth and later ones count for
nothing. Without a point there are none. -/
def readFraction : Reader Nat
  | '.' :: rest =>
    let run := rest.takeWhile Char.isDigit
    if run = [] then none
    else
      let kept := run.take 9
      some (Numeral.value kept * Nat.pow 10 (9 - kept.length), rest.drop run.length)
  | cs => some (0, cs)

def isSeparator (c : Char) : Bool := c = ':' || Text.isBlank c

def twoDigits : Reader Nat
  | a :: b :: rest =>
    if a.isDigit && b.isDigit then some (Numeral.value [a, b], rest) else none
  | _ => none

/-- The offset in minutes: less than a day, hours and minutes of two digits each. -/
def readOffset : Reader Int := fun cs =>
  if (cs.take 3).map Char.toUpper = ['U', 'T', 'C'] then some (0, cs.drop 3)
  else match cs with
    | c :: rest =>
      if c = 'Z' ∨ c = 'z' then some (0, rest)
      else if c = '+' ∨ c = '-' ∨ c = '\u2212' then do
        let (hours, rest) ← twoDigits rest
        let (minutes, rest) ← twoDigits (rest.dropWhile isSeparator)
        if hours < 24 ∧ minutes < 60 then
          let offset : Int := 60 * hours + minutes
          return (if c = '+' then offset else -offset, rest)
        else none
      else none
    | [] => none

def isDateEnd (c : Char) : Bool := c = 't' || c = 'T' || c = ' '

/-- Read a whole text. -/
def ofText? (text : String) : Option Timestamp := do
  let (year, cs) ← readYear text.toList
  let cs ← mark '-' cs
  let (month, cs) ← part 1 12 cs
  let cs ← mark '-' cs
  let (day, cs) ← part 1 31 cs
  if daysInMonth year month < day then none
  else
    let (time, found) ← cs.head?.map (cs.tail, ·)
    if !isDateEnd found then none
    else
      let (hour, cs) ← part 0 23 time
      let cs ← mark ':' cs
      let (minute, cs) ← part 0 59 cs
      let cs ← mark ':' cs
      let (second, cs) ← part 0 60 cs
      let (nanosecond, cs) ← readFraction cs
      let (offset, cs) ← readOffset (skipBlanks cs)
      if skipBlanks cs ≠ [] then none
      else
        let (date, inDay) ← settle ⟨year, month, day⟩ (60 * hour + minute - offset)
        return {
          year := date.year
          month := date.month
          day := date.day
          hour := inDay / 60
          minute := inDay % 60
          second
          nanosecond }

/-! ## Writing -/

/-- Years of four digits stand without a sign. -/
def yearText (year : Int) : List Char :=
  if 0 ≤ year ∧ year ≤ 9999 then Numeral.padded 4 year.toNat
  else (if year < 0 then '-' else '+') :: Numeral.padded 4 year.natAbs

/-- As few groups of three digits as show all of the fraction. -/
def fractionText (nanosecond : Nat) : List Char :=
  if nanosecond = 0 then []
  else if nanosecond % 1000000 = 0 then '.' :: Numeral.padded 3 (nanosecond / 1000000)
  else if nanosecond % 1000 = 0 then '.' :: Numeral.padded 6 (nanosecond / 1000)
  else '.' :: Numeral.padded 9 nanosecond

def text (time : Timestamp) : String :=
  .ofList (yearText time.year ++ '-' :: Numeral.padded 2 time.month ++ '-' ::
    Numeral.padded 2 time.day ++ 'T' :: Numeral.padded 2 time.hour ++ ':' ::
    Numeral.padded 2 time.minute ++ ':' :: Numeral.padded 2 time.second ++
    fractionText time.nanosecond ++ ['Z'])

end Timestamp

end UploadGate
