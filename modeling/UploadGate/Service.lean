import UploadGate.Eligibility
import UploadGate.Form.Catalog
import UploadGate.Form.Shape
import UploadGate.Form.Validation
import UploadGate.Permissions.Source
import UploadGate.Registry

/-! # The upload service

The service offers a user those connections of its registry that are eligible for him, and accepts
a submission only for one of them. A user whose permissions cannot be found out has none. A
submission is looked at in a fixed order: its shape, the registry, the fields of the form, and last
the schema that the upload goes into.
-/

namespace UploadGate

structure UploadService where
  registry : Registry
  permissions : PermissionSource
  upload : UploadSettings

namespace UploadService

/-- Why a submission is not accepted, or a list of connections not given. -/
inductive Refusal where
  | registry (fault : Registry.Fault)
  | shape (errors : ErrorTree)
  | fields (problems : Form.Problems)
  /-- Uploads of this kind may not go into the schema of the connection. -/
  | schema (connection : Connection) (schema : Option String) (kind : Form.Kind)
  /-- The chosen database is not among the eligible ones. -/
  | unlisted (id : Int)

namespace Refusal

def issue (problem : Form.Problem) : Issue := ⟨problem.code, some problem.message⟩

def fieldErrors (problems : Form.Problems) : ErrorTree :=
  .ofIssues (problems.map (List.map issue))

def schemaMessage (connection : Connection) (schema : Option String) (kind : Form.Kind) : String :=
  "Database \"" ++ connection.name ++ "\" schema \"" ++ schema.getD "" ++
    "\" is not allowed for " ++ kind.slug ++ " uploads. Please contact your administrator."

def toError : Refusal → ServiceError
  | registry fault => .databaseQuery fault.message
  | shape errors => .formValidation errors
  | fields problems => .formValidation (fieldErrors problems)
  | schema connection name kind =>
    .formValidation [("schema", .field [⟨"schema", some (schemaMessage connection name kind)⟩])]
  | unlisted id => .internal ("数据库 " ++ Numeral.text id ++ " 不在可选列表中")

end Refusal

variable (service : UploadService)

/-- The permissions of a user, none if they cannot be found out. -/
def permissionsOf (user : String) : Permissions :=
  match service.permissions.lookup user with
  | .ok permissions => permissions
  | .error _ => .none user

/-- The connections that are eligible for a user, in the order of the registry. -/
def eligible (user : String) : Except Refusal (List Connection) :=
  match service.registry.uploadAllowed with
  | .ok connections => .ok (eligibleConnections (some (service.permissionsOf user)) connections)
  | .error fault => .error (.registry fault)

/-- The databases on offer to a user. -/
def choices (user : String) : Except Refusal (List Choice) :=
  (service.eligible user).map (List.map Connection.choice)

def form (kind : Form.Kind) : Form := Form.catalog service.upload kind

/-- A form with the databases on offer to a user. -/
def formView (kind : Form.Kind) (user : String) : Except Refusal Form.View :=
  (service.choices user).map fun choices => ⟨service.form kind, choices⟩

/-- Check that an upload goes into a connection on the list, and into a schema allowed there. -/
def accept (user : String) (connections : List Connection) (upload : Form.Upload) :
    Except Refusal Form.Upload :=
  match connections.find? (·.id = upload.databaseId) with
  | none => .error (.unlisted upload.databaseId)
  | some connection =>
    if connection.allowsSchema (some (service.permissionsOf user)) upload.schema then .ok upload
    else .error (.schema connection upload.schema upload.form)

/-- Validate a user's submission for a form. -/
def validate (kind : Form.Kind) (user : String) (submission : Form.Submission) :
    Except Refusal Form.Upload :=
  if !submission.shapeErrors.isEmpty then .error (.shape submission.shapeErrors)
  else do
    let connections ← service.eligible user
    match (service.form kind).validate (connections.map Connection.choice) submission with
    | .error problems => .error (.fields problems)
    | .ok upload => service.accept user connections upload

end UploadService

end UploadGate
