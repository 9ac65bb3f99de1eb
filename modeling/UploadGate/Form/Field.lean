import UploadGate.Form.Validator

/-! # Form fields

One row of a form's table: how the field is shown, how its raw input is read, which validators look
at its value, and which value it has when a submission leaves it out.
-/

namespace UploadGate.Form

/-- How the raw text of a field is read. -/
inductive InputKind where
  | text
  /-- One of the field's options. -/
  | select
  /-- The id of one of the databases on offer. -/
  | database
  | boolean
  | integer
  /-- Items between commas, blank ones left out. -/
  | commaList
  | jsonList
deriving DecidableEq

inductive FieldKind where
  /-- A single file. -/
  | file
  /-- One or more files. -/
  | files
  | input (kind : InputKind)
deriving DecidableEq

namespace FieldKind

def slug : FieldKind → String
  | file => "file"
  | files => "multiple_files"
  | input .text => "text"
  | input .select => "select"
  | input .database => "database_select"
  | input .boolean => "boolean"
  | input .integer => "integer"
  | input .commaList => "comma_separated_list"
  | input .jsonList => "json_list"

def all : List FieldKind :=
  [file, files, input .text, input .select, input .database, input .boolean, input .integer,
    input .commaList, input .jsonList]

def ofSlug? (slug : String) : Option FieldKind := all.find? (·.slug = slug)

end FieldKind

/-- An option of a select field. -/
structure SelectOption where
  value : String
  label : String
deriving DecidableEq

structure Field where
  name : String
  label : String
  kind : FieldKind
  description : Option String := none
  validators : List Validator := []
  default : Option Value := none
  options : List SelectOption := []

namespace Field

variable (field : Field)

/-- Whether a blank field passes all validators. -/
def isOptional : Bool := field.validators.any Validator.passesBlank

/-- Whether a blank field is refused. -/
def isRequired : Bool := field.validators.any Validator.refusesBlank

/-- The value of the field when a submission leaves it out. -/
def absentValue : Value :=
  match field.default with
  | some value => value
  | none => if field.kind = .input .boolean then .bool false else .null

def optionJson (option : SelectOption) : Json.Value :=
  .ofMembers [("value", .string option.value), ("label", .string option.label)]

/-- A field is written without the description, the default and the options that it lacks. -/
def toJson : Json.Value :=
  .ofPresent
    [("name", some (.string field.name)),
      ("label", some (.string field.label)),
      ("kind", some (.string field.kind.slug)),
      ("description", field.description.map .string),
      ("validators", some (.array (field.validators.map Validator.toJson))),
      ("default", field.default.map Value.toJson),
      ("choices", if field.options = [] then none
        else some (.array (field.options.map optionJson)))]

end Field

end UploadGate.Form
