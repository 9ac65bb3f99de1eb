import UploadGate.Form.Basic
import UploadGate.Form.Cleaning
import UploadGate.Form.Submission

/-! # Validating submissions

Validating a submission cleans every field of the form by itself, so that a problem of one field
hides none of another. In a form for CSV files the delimiter may then be taken from a second field.
Without problems, the result is the values of all fields, the database of the upload and the schema
if there is one.
-/

namespace UploadGate.Form

/-- The outcome of a valid submission. -/
structure Upload where
  form : Kind
  databaseId : Int
  schema : Option String
  values : NameTable Value

def Upload.toJson (upload : Upload) : Json.Value :=
  .ofPresent
    [("form", some (.string upload.form.slug)),
      ("database_id", some (.integer upload.databaseId)),
      ("schema", upload.schema.map .string),
      ("values", some (.ofTable (upload.values.map Value.toJson)))]

/-- The problems of the fields, each field's in the order in which they were found. -/
abbrev Problems := NameTable (List Problem)

def Problems.add (problems : Problems) (field : String) (problem : Problem) : Problems :=
  problems.alter field fun found => found.getD [] ++ [problem]

/-- The fields cleaned so far. -/
structure Draft where
  values : NameTable Value
  problems : Problems

namespace Draft

def empty : Draft := ⟨∅, ∅⟩

def add (draft : Draft) (name : String) : Except Problem Value → Draft
  | .ok value => { draft with values := draft.values.insert name value }
  | .error problem => { draft with problems := draft.problems.add name problem }

def text? (draft : Draft) (name : String) : Option String :=
  (draft.values.get? name).bind Value.text?

/-- The delimiter "other" stands for the text of a second field, which must then not be empty. -/
def resolveDelimiter (draft : Draft) : Draft :=
  if draft.text? "delimiter" = some "other" then
    match (draft.text? "otherInput").filter (· ≠ "") with
    | some delimiter => { draft with values := draft.values.insert "delimiter" (.text delimiter) }
    | none => { draft with problems := draft.problems.add "otherInput" .required }
  else draft

/-- The schema of the upload, if it is not blank. -/
def schema? (draft : Draft) : Option String :=
  ((draft.text? "schema").map Text.trim).filter (· ≠ "")

def databaseId? (draft : Draft) : Option Int :=
  (draft.values.get? "database").bind Value.integer?

end Draft

def cleanField (databases : List Choice) (submission : Submission) (field : Field) :
    Except Problem Value :=
  field.clean databases (submission.fields.get? field.name) (submission.filesFor field.name)

/-- All fields cleaned, in their order. -/
def cleaned (form : Form) (databases : List Choice) (submission : Submission) : Draft :=
  form.fields.foldl
    (fun draft field => draft.add field.name (cleanField databases submission field)) .empty

/-- All fields cleaned, and the delimiter resolved in a form for CSV files. -/
def draft (form : Form) (databases : List Choice) (submission : Submission) : Draft :=
  if form.kind = .csv then (form.cleaned databases submission).resolveDelimiter
  else form.cleaned databases submission

/-- Validate a submission against a form, where the databases are those on offer to the user. -/
def validate (form : Form) (databases : List Choice) (submission : Submission) :
    Except Problems Upload :=
  let draft := form.draft databases submission
  if draft.problems.isEmpty then
    match draft.databaseId? with
    | some id => .ok ⟨form.kind, id, draft.schema?, draft.values⟩
    | none => .error (Problems.add ∅ "database" .choice)
  else .error draft.problems

end UploadGate.Form
