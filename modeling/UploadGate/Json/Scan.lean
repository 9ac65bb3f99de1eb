import UploadGate.Json.Numeral

/-! # What a JSON text spells

A scan is the tree that a text spells, up to the first place where the text stops being JSON. Only
the shape of the text is looked at: a number may turn out too large, and a string may hold half of
a surrogate pair, which matters to the reader of that number or string alone. Where the text breaks
off, every array or object around that place breaks off too.
-/

namespace UploadGate.Json

inductive Scan where
  | null
  | bool (b : Bool)
  | number (numeral : Numeral)
  /-- A string; there is none if an escape of it names no character. -/
  | string (s : Option String)
  | array (items : List Scan)
  /-- The members in the order of the text, and whether the closing brace is there. -/
  | object (members : List (Option String × Scan)) (closed : Bool)
  /-- The text is no JSON from here on. -/
  | broken

namespace Scan

instance : Inhabited Scan := ⟨broken⟩

/-! ## Equality -/

mutual

/-- Whether two scans are equal, by recursion on the first. -/
def same : Scan → Scan → Bool
  | .null, .null | .broken, .broken => true
  | .bool a, .bool b => a = b
  | .number a, .number b => a = b
  | .string a, .string b => a = b
  | .array items, .array others => sameItems items others
  | .object members closed, .object others closed' =>
    closed = closed' && sameMembers members others
  | _, _ => false

def sameItems : List Scan → List Scan → Bool
  | [], [] => true
  | a :: as, b :: bs => same a b && sameItems as bs
  | _, _ => false

def sameMembers : List (Option String × Scan) → List (Option String × Scan) → Bool
  | [], [] => true
  | (name, a) :: as, (name', b) :: bs => name = name' && same a b && sameMembers as bs
  | _, _ => false

end

mutual

theorem same_iff : (a b : Scan) → (same a b = true ↔ a = b)
  | .null, b | .bool _, b | .number _, b | .string _, b | .broken, b => by
    cases b <;> simp [same]
  | .array items, b => by cases b <;> simp [same, sameItems_iff items]
  | .object members _, b => by cases b <;> simp [same, sameMembers_iff members, and_comm]

theorem sameItems_iff : (as bs : List Scan) → (sameItems as bs = true ↔ as = bs)
  | [], bs => by cases bs <;> simp [sameItems]
  | a :: as, bs => by cases bs <;> simp [sameItems, same_iff a, sameItems_iff as]

theorem sameMembers_iff :
    (as bs : List (Option String × Scan)) → (sameMembers as bs = true ↔ as = bs)
  | [], bs => by cases bs <;> simp [sameMembers]
  | (name, a) :: as, bs => by
    rcases bs with - | ⟨⟨name', b⟩, bs⟩ <;>
      simp [sameMembers, same_iff a, sameMembers_iff as]

end

instance : DecidableEq Scan := fun a b => decidable_of_iff _ (same_iff a b)

/-! ## Strings -/

/-- A piece of a string: a character, or a 16-bit unit given by its number. -/
inductive Piece where
  | char (c : Char)
  | unit (n : Nat)

def hexValue (c : Char) : Option Nat :=
  if '0' ≤ c ∧ c ≤ '9' then some (c.toNat - '0'.toNat)
  else if 'a' ≤ c ∧ c ≤ 'f' then some (c.toNat - 'a'.toNat + 10)
  else if 'A' ≤ c ∧ c ≤ 'F' then some (c.toNat - 'A'.toNat + 10)
  else none

/-- The number that four hexadecimal digits denote. -/
def hexNumber (a b c d : Char) : Option Nat := do
  return (((← hexValue a) * 16 + (← hexValue b)) * 16 + (← hexValue c)) * 16 + (← hexValue d)

/-- The character that an escape of one letter stands for. -/
def shortEscape : Char → Option Char
  | '\"' => some '\"'
  | '\\' => some '\\'
  | '/' => some '/'
  | 'b' => some '\x08'
  | 'f' => some '\x0c'
  | 'n' => some '\n'
  | 'r' => some '\r'
  | 't' => some '\t'
  | _ => none

/-- The pieces of a string up to its closing quote, and the text after it. -/
def pieces : List Char → Option (List Piece × List Char)
  | [] => none
  | '\"' :: rest => some ([], rest)
  | '\\' :: 'u' :: a :: b :: c :: d :: rest =>
    match hexNumber a b c d, pieces rest with
    | some n, some (later, rest) => some (.unit n :: later, rest)
    | _, _ => none
  | '\\' :: letter :: rest =>
    match shortEscape letter, pieces rest with
    | some c, some (later, rest) => some (.char c :: later, rest)
    | _, _ => none
  | c :: rest =>
    if c = '\\' ∨ c.toNat < 0x20 then none
    else (pieces rest).map fun (later, rest) => (.char c :: later, rest)

theorem pieces_quote (rest : List Char) : pieces ('\"' :: rest) = some ([], rest) := by
  rw [pieces]

def isHighSurrogate (n : Nat) : Bool := 0xD800 ≤ n && n < 0xDC00
def isLowSurrogate (n : Nat) : Bool := 0xDC00 ≤ n && n < 0xE000

/-- The characters of a string. Two units that are a surrogate pair make one character, and half of
a pair makes none. -/
def assemble : List Piece → Option (List Char)
  | [] => some []
  | .char c :: later => (assemble later).map (c :: ·)
  | .unit high :: .unit low :: later =>
    if isHighSurrogate high && isLowSurrogate low then
      (assemble later).map
        (Char.ofNat (0x10000 + (high - 0xD800) * 0x400 + (low - 0xDC00)) :: ·)
    else if isHighSurrogate high || isLowSurrogate high then none
    else (assemble (.unit low :: later)).map (Char.ofNat high :: ·)
  | .unit n :: later =>
    if isHighSurrogate n || isLowSurrogate n then none
    else (assemble later).map (Char.ofNat n :: ·)

theorem assemble_char (c : Char) (later : List Piece) :
    assemble (.char c :: later) = (assemble later).map (c :: ·) := by
  rw [assemble]

/-- A string after its opening quote. -/
def readString (cs : List Char) : Option (Option String × List Char) :=
  (pieces cs).map fun (found, rest) => ((assemble found).map String.ofList, rest)

/-! ## Numerals -/

def takeDigits (cs : List Char) : List Char × List Char :=
  (cs.takeWhile Char.isDigit, cs.dropWhile Char.isDigit)

/-- The digits before the point: a single zero, or digits that start with no zero. -/
def readWhole : List Char → Option (List Char × List Char)
  | '0' :: rest => if (rest.head?.map Char.isDigit).getD false then none else some (['0'], rest)
  | cs =>
    match takeDigits cs with
    | ([], _) => none
    | found => some found

/-- The point and the digits after it, if there is a point. -/
def readFraction : List Char → Option (Option (List Char) × List Char)
  | '.' :: rest =>
    match takeDigits rest with
    | ([], _) => none
    | (digits, rest) => some (some digits, rest)
  | cs => some (none, cs)

theorem readWhole_zero (rest : List Char) :
    readWhole ('0' :: rest) =
      if (rest.head?.map Char.isDigit).getD false then none else some (['0'], rest) := rfl

theorem readWhole_of_ne_zero {c : Char} (hc : c ≠ '0') (cs : List Char) :
    readWhole (c :: cs) =
      if (takeDigits (c :: cs)).1 = [] then none else some (takeDigits (c :: cs)) := by
  rw [readWhole]
  · split
    next h => rw [h, if_pos rfl]
    next found hne => rw [if_neg fun hnil => hne _ (Prod.ext hnil rfl)]
  · intro rest h
    exact absurd (List.cons.inj h).1 hc

theorem readFraction_of_no_point {cs : List Char} (h : ∀ rest, cs ≠ '.' :: rest) :
    readFraction cs = some (none, cs) := by
  rw [readFraction]
  exact h

/-- The exponent, if its mark is there. -/
def readExponent : List Char → Option (Option ExponentPart × List Char)
  | c :: rest =>
    if c = 'e' ∨ c = 'E' then
      let (negative, rest) := match rest with
        | '-' :: rest => (true, rest)
        | '+' :: rest => (false, rest)
        | _ => (false, rest)
      match takeDigits rest with
      | ([], _) => none
      | (digits, rest) => some (some ⟨negative, digits⟩, rest)
    else some (none, c :: rest)
  | [] => some (none, [])

def readNumeral (cs : List Char) : Option (Numeral × List Char) := do
  let (negative, cs) := match cs with
    | '-' :: rest => (true, rest)
    | _ => (false, cs)
  let (whole, cs) ← readWhole cs
  let (fraction, cs) ← readFraction cs
  let (exponent, cs) ← readExponent cs
  return (⟨negative, whole, fraction, exponent⟩, cs)

/-! ## Values -/

/-- White space of JSON: space, tab, line feed and carriage return. -/
def isSpace (c : Char) : Bool := c = ' ' || c = '\t' || c = '\n' || c = '\r'

def skipSpace (cs : List Char) : List Char := cs.dropWhile isSpace

/-- The text after a word that the text starts with. -/
def afterWord (word : String) (cs : List Char) : Option (List Char) :=
  if word.toList.isPrefixOf cs then some (cs.drop word.length) else none

/-- A scan and the text after it, of which there is none where the text broke off. -/
abbrev Step (α : Type) := α × Option (List Char)

def word (scan : Scan) (name : String) (cs : List Char) : Step Scan :=
  match afterWord name cs with
  | some rest => (scan, some rest)
  | none => (.broken, none)

mutual

/-- The value that a text starts with. Each step of the recursion takes up one unit of fuel and a
character of the text. -/
def value : Nat → List Char → Step Scan
  | 0, _ => (.broken, none)
  | fuel + 1, cs =>
    match skipSpace cs with
    | [] => (.broken, none)
    | c :: rest =>
      if c = 'n' then word .null "null" (c :: rest)
      else if c = 't' then word (.bool true) "true" (c :: rest)
      else if c = 'f' then word (.bool false) "false" (c :: rest)
      else if c = '\"' then
        match readString rest with
        | some (s, rest) => (.string s, some rest)
        | none => (.broken, none)
      else if c = '[' then
        match skipSpace rest with
        | ']' :: rest => (.array [], some rest)
        | rest => let (found, rest) := items fuel rest; (.array found, rest)
      else if c = '{' then
        match skipSpace rest with
        | '}' :: rest => (.object [] true, some rest)
        | rest => let (found, rest) := members fuel rest; (.object found rest.isSome, rest)
      else
        match readNumeral (c :: rest) with
        | some (numeral, rest) => (.number numeral, some rest)
        | none => (.broken, none)

/-- The items of an array from the next one on, with the closing bracket. -/
def items : Nat → List Char → Step (List Scan)
  | 0, _ => ([.broken], none)
  | fuel + 1, cs =>
    match value fuel cs with
    | (item, none) => ([item], none)
    | (item, some rest) =>
      match skipSpace rest with
      | ',' :: rest => let (later, rest) := items fuel rest; (item :: later, rest)
      | ']' :: rest => ([item], some rest)
      | _ => ([item, .broken], none)

/-- The members of an object from the next one on, with the closing brace. -/
def members : Nat → List Char → Step (List (Option String × Scan))
  | 0, _ => ([], none)
  | fuel + 1, cs =>
    match skipSpace cs with
    | '\"' :: rest =>
      match readString rest with
      | none => ([], none)
      | some (name, rest) =>
        match skipSpace rest with
        | ':' :: rest =>
          match value fuel rest with
          | (found, none) => ([(name, found)], none)
          | (found, some rest) =>
            match skipSpace rest with
            | ',' :: rest => let (later, rest) := members fuel rest; ((name, found) :: later, rest)
            | '}' :: rest => ([(name, found)], some rest)
            | _ => ([(name, found)], none)
        | _ => ([(name, .broken)], none)
    | _ => ([], none)

end

/-- What a whole text spells, and whether anything but white space follows. -/
def ofText (text : String) : Scan × Bool :=
  let cs := text.toList
  match value (2 * cs.length + 2) cs with
  | (scan, some rest) => (scan, !(skipSpace rest).isEmpty)
  | (scan, none) => (scan, true)

/-! ## White space in front of a text -/

theorem skipSpace_skipSpace (cs : List Char) : skipSpace (skipSpace cs) = skipSpace cs := by
  induction cs with
  | nil => rfl
  | cons c cs ih =>
    cases h : isSpace c with
    | true =>
      have hskip : skipSpace (c :: cs) = skipSpace cs := List.dropWhile_cons_of_pos h
      rw [hskip, ih]
    | false =>
      have hskip : skipSpace (c :: cs) = c :: cs := List.dropWhile_cons_of_neg (by simp [h])
      rw [hskip, hskip]

theorem value_skipSpace (fuel : Nat) (cs : List Char) :
    value fuel (skipSpace cs) = value fuel cs := by
  cases fuel with
  | zero => rfl
  | succ fuel => simp only [value, skipSpace_skipSpace]

theorem items_skipSpace (fuel : Nat) (cs : List Char) :
    items fuel (skipSpace cs) = items fuel cs := by
  cases fuel with
  | zero => rfl
  | succ fuel => simp only [items, value_skipSpace]

theorem members_skipSpace (fuel : Nat) (cs : List Char) :
    members fuel (skipSpace cs) = members fuel cs := by
  cases fuel with
  | zero => rfl
  | succ fuel => simp only [members, skipSpace_skipSpace]

end Scan

end UploadGate.Json
