import UploadGate.Json.Value
import UploadGate.Number.Shortest

/-! # Writing JSON

The text of a value, without white space between its parts. Inside a string, the quote, the
backslash and the control characters below the space are escaped, and every other character stands
for itself.
-/

namespace UploadGate.Json

def hexDigit (n : Nat) : Char :=
  if n < 10 then Char.ofNat ('0'.toNat + n) else Char.ofNat ('a'.toNat + (n - 10))

/-- What stands for a character inside a string. -/
def escapeChar (c : Char) : List Char :=
  if c = '\"' then ['\\', '\"']
  else if c = '\\' then ['\\', '\\']
  else if c = '\x08' then ['\\', 'b']
  else if c = '\x0c' then ['\\', 'f']
  else if c = '\n' then ['\\', 'n']
  else if c = '\r' then ['\\', 'r']
  else if c = '\t' then ['\\', 't']
  else if c.toNat < 0x20 then
    ['\\', 'u', '0', '0', hexDigit (c.toNat / 16), hexDigit (c.toNat % 16)]
  else [c]

def printString (s : String) : List Char := '\"' :: s.toList.flatMap escapeChar ++ ['\"']

def printNumber : Number → List Char
  | .integer n => Numeral.ofInt n
  | .double x => x.render

mutual

/-- The text of a value. -/
def print : Value → List Char
  | .null => "null".toList
  | .bool true => "true".toList
  | .bool false => "false".toList
  | .number n => printNumber n
  | .string s => printString s
  | .array [] => ['[', ']']
  | .array (item :: items) => '[' :: print item ++ printItems items
  | .object [] => ['{', '}']
  | .object ((name, value) :: members) =>
    '{' :: printString name ++ ':' :: print value ++ printMembers members

/-- The items after the first one, with the closing bracket. -/
def printItems : List Value → List Char
  | [] => [']']
  | item :: items => ',' :: print item ++ printItems items

/-- The members after the first one, with the closing brace. -/
def printMembers : List (String × Value) → List Char
  | [] => ['}']
  | (name, value) :: members =>
    ',' :: printString name ++ ':' :: print value ++ printMembers members

end

def Value.text (value : Value) : String := .ofList (print value)

end UploadGate.Json
