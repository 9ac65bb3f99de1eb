import UploadGate.Number.Numeral
import UploadGate.Text.Names

/-! # What is wrong with a field

The ways in which the value of a field can be refused. Each has a code for programs and a message
for the person who filled in the form.
-/

namespace UploadGate.Form

inductive Problem where
  /-- The field was left blank. -/
  | required
  /-- The value is none of those on offer. -/
  | choice
  | notInteger
  | notJsonList
  /-- A file has none of the extensions that the message lists. -/
  | fileExtension (message : String)
  /-- The text is not of the pattern that the message explains. -/
  | pattern (message : String)
  /-- The text has fewer or more characters than the bounds allow. -/
  | length (min max : Option Nat)
  /-- The number is below or above the bounds. -/
  | range (min max : Option Int)
deriving DecidableEq

namespace Problem

def code : Problem → String
  | required => "required"
  | choice => "choice"
  | notInteger => "integer"
  | notJsonList => "json_list"
  | fileExtension _ => "file_allowed"
  | pattern _ => "regex"
  | length _ _ => "length"
  | range _ _ => "range"

/-- A number of characters in words. -/
def characters (n : Nat) : String :=
  Numeral.text n ++ if n = 1 then " character" else " characters"

def lengthMessage : Option Nat → Option Nat → String
  | some min, some max =>
    if min = max then "Field must be exactly " ++ characters max ++ " long."
    else "Field must be between " ++ Numeral.text min ++ " and " ++ Numeral.text max ++
      " characters long."
  | some min, none => "Field must be at least " ++ characters min ++ " long."
  | none, some max => "Field cannot be longer than " ++ characters max ++ "."
  | none, none => "Invalid field length."

def rangeMessage : Option Int → Option Int → String
  | some min, some max =>
    "Number must be between " ++ Numeral.text min ++ " and " ++ Numeral.text max ++ "."
  | some min, none => "Number must be at least " ++ Numeral.text min ++ "."
  | none, some max => "Number must be at most " ++ Numeral.text max ++ "."
  | none, none => "Invalid number."

/-- The message that lists the extensions, in ascending order. -/
def extensionsMessage (allowed : NameSet) : String :=
  "Only the following file extensions are allowed: " ++ ", ".intercalate allowed.toList

def message : Problem → String
  | required => "This field is required."
  | choice => "Not a valid choice."
  | notInteger => "Not a valid integer value."
  | notJsonList => "Not a valid JSON list."
  | fileExtension message => message
  | pattern message => message
  | length min max => lengthMessage min max
  | range min max => rangeMessage min max

end Problem

end UploadGate.Form
