import UploadGate.Connection.Basic
import UploadGate.Form.Field

/-! # Cleaning a field

The value of a field from its raw text, or from the files bound to it. A field left blank is decided
on first: a required one is refused, an optional one passes every validator. Any other raw text is
read by the field's kind, and the first validator that finds a problem refuses the value.
-/

namespace UploadGate.Form

/-- The pieces between commas without the white space around them, blank ones left out. -/
def commaItems (raw : String) : List String :=
  ((Text.split ',' raw.toList).map fun piece => .ofList (Text.strip Text.isBlank piece)).filter
    (· ≠ "")

/-- The value of a list of items: null stands for the list without any. -/
def Value.ofItems : List String → Value
  | [] => .null
  | items => .list items

/-- The integer that a text denotes, white space around it aside. -/
def integerOf? (raw : String) : Option Int := Numeral.signed? (Text.trim raw).toList

/-- The items of a JSON list of any values. -/
def jsonItems? (raw : String) : Option (List Json.Value) :=
  (Json.decode Json.Decode.anyList raw).toOption

namespace Field

/-- Read the raw text of a field. -/
def read (field : Field) (kind : InputKind) (databases : List Choice) (raw : String) :
    Except Problem Value :=
  match kind with
  | .text => .ok (.text raw)
  | .select =>
    match field.options.find? (·.value = raw) with
    | some option => .ok (.text option.value)
    | none => .error .choice
  | .database =>
    match (integerOf? raw).filter fun id => databases.any (·.id = id) with
    | some id => .ok (.integer id)
    | none => .error .choice
  | .boolean => .ok (.bool (raw ≠ "" && raw ≠ "false"))
  | .integer =>
    match integerOf? raw with
    | some n => .ok (.integer n)
    | none => .error .notInteger
  | .commaList =>
    match commaItems raw with
    | [] => .ok .null
    | items => .ok (.list items)
  | .jsonList =>
    if Text.blank raw then .ok (.json [])
    else match jsonItems? raw with
      | some items => .ok (.json items)
      | none => .error .notJsonList

theorem read_commaList (field : Field) (databases : List Choice) (text : String) :
    field.read .commaList databases text = .ok (.ofItems (commaItems text)) := by
  rw [read]
  cases commaItems text <;> rfl

/-- Check a value that has been read. A required field must not be blank, a database field must
hold an integer, and no validator may find a problem. -/
def check (field : Field) (files : List String) (value : Value) : Except Problem Value :=
  if field.isRequired && value.isBlank then .error .required
  else if field.kind = .input .database ∧ value.integer? = none then .error .choice
  else match field.validators.findSome? (·.problem? value files) with
    | some problem => .error problem
    | none => .ok value

/-- The value of a file field: the names of its files. -/
def cleanFiles (field : Field) (files : List String) : Except Problem Value :=
  if files = [] then if field.isRequired then .error .required else .ok .null
  else field.check files (.list files)

/-- The value of a field with raw text, which may have been left out. -/
def cleanInput (field : Field) (kind : InputKind) (databases : List Choice) (files : List String) :
    Option String → Except Problem Value
  | none => if field.isOptional then .ok field.absentValue else field.check files field.absentValue
  | some raw =>
    if Text.blank raw && field.isOptional then .ok .null
    else if Text.blank raw && field.isRequired then .error .required
    else (field.read kind databases raw).bind (field.check files)

section

variable (field : Field) (kind : InputKind) (databases : List Choice) (files : List String)

theorem cleanInput_none : field.cleanInput kind databases files none =
    if field.isOptional then .ok field.absentValue
    else field.check files field.absentValue := rfl

theorem cleanInput_some (raw : String) : field.cleanInput kind databases files (some raw) =
    if Text.blank raw && field.isOptional then .ok .null
    else if Text.blank raw && field.isRequired then .error .required
    else (field.read kind databases raw).bind (field.check files) := rfl

end

/-- The value of a field, from its raw text and the files bound to it. -/
def clean (field : Field) (databases : List Choice) (raw : Option String) (files : List String) :
    Except Problem Value :=
  match field.kind with
  | .file => field.cleanFiles (files.take 1)
  | .files => field.cleanFiles files
  | .input kind => field.cleanInput kind databases files raw

end Field

end UploadGate.Form
