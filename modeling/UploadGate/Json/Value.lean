import UploadGate.Number.Double
import UploadGate.Text.Names

/-! # JSON values

Numbers are integers of 64 bits, with or without a sign, or doubles. The members of an object stand
in ascending order of their names, each name once; `object` builds such a list from any other.
-/

namespace UploadGate.Json

inductive Number where
  | integer (n : Int)
  | double (x : Double)
deriving DecidableEq

inductive Value where
  | null
  | bool (b : Bool)
  | number (n : Number)
  | string (s : String)
  | array (items : List Value)
  | object (members : List (String × Value))

namespace Value

instance : Inhabited Value := ⟨null⟩

def integer (n : Int) : Value := number (.integer n)

/-- The object with the given members, of which the last of a name counts. -/
def ofMembers (members : List (String × Value)) : Value :=
  object (NameTable.ofList members).entries

def ofTable (table : NameTable Value) : Value := object table.entries

def strings (items : List String) : Value := array (items.map string)

def ofOption {α : Type} (write : α → Value) : Option α → Value
  | none => null
  | some a => write a

/-- Leave out the members without a value. -/
def ofPresent (members : List (String × Option Value)) : Value :=
  ofMembers (members.filterMap fun (name, value) => value.map (name, ·))

/-- The value of a member of an object. -/
def get? (value : Value) (name : String) : Option Value :=
  match value with
  | object members => members.lookup name
  | _ => none

end Value

end UploadGate.Json
