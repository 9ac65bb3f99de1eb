import UploadGate.Json.Scan

/-! # Decoding JSON

A decoder reads a scan in the order of the text and stops at its first fault. Either the text is no
JSON there, or it is JSON of another shape than the decoder asks for. No value is converted: an
integer is a whole number without fraction, exponent or minus zero, and null stands only where a
value may be missing.

A record is an object, or an array of its fields in their order, of which the last may be left off.
In an object the fields come in any order; unknown ones are passed over whatever they hold, and a
known one may come only once.
-/

namespace UploadGate.Json

inductive Fault where
  /-- The text is no JSON at the place that was read. -/
  | malformed
  /-- The text is JSON, but not of the shape asked for. -/
  | mismatch
deriving DecidableEq

abbrev Decoder (α : Type) := Scan → Except Fault α

namespace Decode

/-- The fault of a scan where another shape is asked for. A number or a string is read to its end
before its shape is blamed, an array or an object is not. -/
def unexpected : Scan → Fault
  | .broken => .malformed
  | .string none => .malformed
  | .number numeral => if numeral.value?.isSome then .mismatch else .malformed
  | _ => .mismatch

def bool : Decoder Bool
  | .bool b => .ok b
  | other => .error (unexpected other)

def string : Decoder String
  | .string (some s) => .ok s
  | other => .error (unexpected other)

/-- An integer that fits in 64 bits with a sign. -/
def integer : Decoder Int
  | .number numeral =>
    match numeral.value? with
    | some (.integer n) => if UploadGate.Numeral.fitsSigned n then .ok n else .error .mismatch
    | some (.double _) => .error .mismatch
    | none => .error .malformed
  | other => .error (unexpected other)

/-- A value that may be null. -/
def optional {α : Type} (decode : Decoder α) : Decoder (Option α)
  | .null => .ok none
  | other => (decode other).map some

def list {α : Type} (decode : Decoder α) : Decoder (List α)
  | .array items => items.mapM decode
  | other => .error (unexpected other)

def names : Decoder NameSet := fun scan => (list string scan).map NameSet.ofList

/-- The entries of a table in the order of the text. -/
def entries {α : Type} (decode : Decoder α) :
    List (Option String × Scan) → Except Fault (List (String × α))
  | [] => .ok []
  | (none, _) :: _ => .error .malformed
  | (some name, scan) :: later => do
    let value ← decode scan
    return (name, value) :: (← entries decode later)

/-- A table, in which the last value of a name counts. -/
def table {α : Type} (decode : Decoder α) : Decoder (NameTable α)
  | .object members closed => do
    let found ← entries decode members
    if closed then return .ofList found else throw .malformed
  | other => .error (unexpected other)

/-- How the fields of a record go into a draft of it. -/
structure Fields (δ : Type) where
  names : List String
  read : String → Scan → δ → Except Fault δ

/-- The fields of an object, of which those in the list have been read. -/
def readMembers {δ : Type} (fields : Fields δ) (closed : Bool) (draft : δ) (seen : List String) :
    List (Option String × Scan) → Except Fault δ
  | [] => if closed then .ok draft else .error .malformed
  | (none, _) :: _ => .error .malformed
  | (some name, scan) :: later =>
    if name ∈ seen then .error .mismatch
    else if name ∈ fields.names then do
      let draft ← fields.read name scan draft
      readMembers fields closed draft (name :: seen) later
    else readMembers fields closed draft seen later

/-- The fields of an array, in their order. -/
def readItems {δ : Type} (read : String → Scan → δ → Except Fault δ) (draft : δ) :
    List String → List Scan → Except Fault δ
  | _, [] => .ok draft
  | [], _ :: _ => .error .malformed
  | name :: names, scan :: later => do
    let draft ← read name scan draft
    readItems read draft names later

/-- A record, from an empty draft and a rule for the fields that are missing in the end. -/
def record {δ α : Type} (fields : Fields δ) (empty : δ) (finish : δ → Option α) : Decoder α
  | .object members closed => do
    let draft ← readMembers fields closed empty [] members
    (finish draft).elim (throw .mismatch) pure
  | .array items => do
    let draft ← readItems fields.read empty fields.names items
    (finish draft).elim (throw .mismatch) pure
  | other => .error (unexpected other)

mutual

/-- A value of any shape, in at most the given number of arrays and objects around each other. -/
def value (levels : Nat) : Scan → Except Fault Value
  | .null => .ok .null
  | .bool b => .ok (.bool b)
  | .number numeral => match numeral.value? with
    | some n => .ok (.number n)
    | none => .error .malformed
  | .string (some s) => .ok (.string s)
  | .string none => .error .malformed
  | .array items =>
    match levels with
    | 0 => .error .malformed
    | levels + 1 => (values levels items).map .array
  | .object members closed =>
    match levels with
    | 0 => .error .malformed
    | levels + 1 => do
      let found ← memberValues levels members
      if closed then return .ofMembers found else throw .malformed
  | .broken => .error .malformed

def values (levels : Nat) : List Scan → Except Fault (List Value)
  | [] => .ok []
  | scan :: later => do
    let found ← value levels scan
    return found :: (← values levels later)

def memberValues (levels : Nat) : List (Option String × Scan) → Except Fault (List (String × Value))
  | [] => .ok []
  | (none, _) :: _ => .error .malformed
  | (some name, scan) :: later => do
    let found ← value levels scan
    return (name, found) :: (← memberValues levels later)

end

theorem value_array (levels : Nat) (items : List Scan) :
    value (levels + 1) (.array items) = (values levels items).map .array := by
  rw [value]

theorem value_object (levels : Nat) (members : List (Option String × Scan)) (closed : Bool) :
    value (levels + 1) (.object members closed) =
      (do
        let found ← memberValues levels members
        if closed then return .ofMembers found else throw .malformed) := by
  rw [value]

/-- The greatest number of arrays and objects around each other in a text. -/
def nestingLimit : Nat := 127

/-- A list of values of any shape. -/
def anyList : Decoder (List Value)
  | .array items => values (nestingLimit - 1) items
  | other => .error (unexpected other)

end Decode

/-- Decode a whole text, which nothing but white space may follow. -/
def decode {α : Type} (decoder : Decoder α) (text : String) : Except Fault α := do
  let (scan, trailing) := Scan.ofText text
  let found ← decoder scan
  if trailing then throw .malformed else return found

/-- The value of a text. -/
def Value.ofText? (text : String) : Option Value :=
  (decode (Decode.value Decode.nestingLimit) text).toOption

end UploadGate.Json
