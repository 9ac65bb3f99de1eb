import UploadGate.Json.Value
import UploadGate.Text.Blank

/-! # Values of form fields

The value of a field once its raw text or its files have been read. Null, a text of white space and
a list without items count as left blank; no other value does.
-/

namespace UploadGate.Form

inductive Value where
  | null
  | bool (b : Bool)
  | integer (n : Int)
  | text (s : String)
  /-- A list of names: of files, or of the items of a comma-separated text. -/
  | list (items : List String)
  /-- The items of a JSON list. -/
  | json (items : List Json.Value)

namespace Value

def isBlank : Value → Bool
  | null => true
  | text s => Text.blank s
  | list items => items.isEmpty
  | bool _ | integer _ | json _ => false

def text? : Value → Option String
  | text s => some s
  | _ => none

def integer? : Value → Option Int
  | integer n => some n
  | _ => none

def toJson : Value → Json.Value
  | null => .null
  | bool b => .bool b
  | integer n => .integer n
  | text s => .string s
  | list items => .strings items
  | json items => .array items

end Value

end UploadGate.Form
